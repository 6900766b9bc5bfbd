import GrammarCheck.Proofs.NormalNames

/-!
# Library files as assignments

Whatever value a library file is given by, it can be given by an assignment of its path to its name
as well. The name is in lower case already, so it is not changed when it is read again, and it holds
no equals sign, so the assignment is cut where its two sides meet.

* `NamedLibrary.parse_assignment` — an assignment gives the lower case of the name and the path.
* `NamedLibrary.equals_notMem_of_parse`, `NamedLibrary.exists_text_of_parse` — the name that a value
  gives can stand on the left of an assignment, and the path on its right.
* `NamedLibrary.parse_reads_back` — the assignment of what a value gives is read back.
-/

namespace GrammarCheck

namespace NamedLibrary

variable {value : String} {l : NamedLibrary}

/-- **Reading an assignment.** It is cut at its first equals sign, so the path may hold more of
them. -/
theorem parse_assignment {name path : String} (hne : name ≠ "") (hequals : '=' ∉ name.toList)
    (hpath : path ≠ "") :
    parse (name ++ "=" ++ path) = .ok ⟨Text.lower name, .ofText path⟩ := by
  refine parse_eq_ok_iff.mpr (Or.inl ⟨name, path, ?_, hequals, hne, hpath, rfl⟩)
  rw [String.toList_append, String.toList_append, List.append_assoc]
  rfl

/-- The name that a value gives holds no equals sign: lower case does not bring one in, and a word
has none. -/
theorem equals_notMem_of_parse (h : parse value = .ok l) : '=' ∉ l.name.toList := by
  rcases parse_eq_ok_iff.mp h with ⟨name, path, -, hname, -, -, rfl⟩ | ⟨-, hpath⟩
  · exact fun hmem => hname (Text.mem_of_mem_lower hmem (by decide) (by decide))
  -- a path gives a word, whose characters are letters, digits, hyphens and underscores
  · have hword := isWord_of_grammarName? (ofPath?_eq_some_iff.mp hpath).1
    exact fun hmem => absurd (hword.isNameChar _ hmem) (by decide)

/-- The path that a value gives is a text, and it is not empty. -/
theorem exists_text_of_parse (h : parse value = .ok l) :
    ∃ path : String, path ≠ "" ∧ l.path.text? = some path := by
  rcases parse_eq_ok_iff.mp h with ⟨name, path, -, -, -, hpath, rfl⟩ | ⟨-, hpath⟩
  · exact ⟨path, hpath, Path.text?_eq_some_iff.mpr rfl⟩
  · obtain ⟨hname, hvalue⟩ := ofPath?_eq_some_iff.mp hpath
    refine ⟨value, ?_, Path.text?_eq_some_iff.mpr hvalue.symm⟩
    rintro rfl
    -- the empty path has no file name, so it gives no grammar
    have hempty : grammarName? (.ofText "") = none := by decide
    exact absurd (hempty.symm.trans hname) (by simp)

/-- **Assignments are read back.** A value gives a name that is not empty and holds no equals sign,
and a path that is a text. The assignment of that path to that name gives the same library file. Any
name and any path that are not empty make an assignment, as long as the name holds no equals sign,
and it gives the path under the lower case of the name. -/
theorem parse_reads_back :
    (∀ value l, parse value = .ok l →
      l.name ≠ "" ∧ '=' ∉ l.name.toList ∧
        ∃ path, l.path.text? = some path ∧ parse (l.name ++ "=" ++ path) = .ok l) ∧
    (∀ name path : String, name ≠ "" → '=' ∉ name.toList → path ≠ "" →
      parse (name ++ "=" ++ path) = .ok ⟨Text.lower name, .ofText path⟩) := by
  refine ⟨fun value l h => ?_, fun name path hne hequals hpath => ?_⟩
  · have hname : NormalName l.name := normalName_of_parse h
    have hequals : '=' ∉ l.name.toList := equals_notMem_of_parse h
    obtain ⟨path, hpath, htext⟩ := exists_text_of_parse h
    refine ⟨hname.ne_empty, hequals, path, htext, ?_⟩
    -- the name is its own lower case, so the second reading leaves it as it is
    rw [parse_assignment hname.ne_empty hequals hpath, hname.lower_eq,
      ← Path.text?_eq_some_iff.mp htext]
  · exact parse_assignment hne hequals hpath

/-- A capital sigma at the end of a name becomes a final one, and the path may hold equals signs.
The name of a library file is in lower case in its assignment. -/
theorem parse_reads_back_finalSigma :
    parse "ΟΔΟΣ=a=b.so" = .ok ⟨"οδος", .ofText "a=b.so"⟩ ∧
      parse "οδος=a=b.so" = .ok ⟨"οδος", .ofText "a=b.so"⟩ ∧
      parse "/lib/libtree-sitter-Zig.SO" = .ok ⟨"zig", .ofText "/lib/libtree-sitter-Zig.SO"⟩ ∧
      parse "zig=/lib/libtree-sitter-Zig.SO" =
        .ok ⟨"zig", .ofText "/lib/libtree-sitter-Zig.SO"⟩ := by
  have hlower : Text.lower "ΟΔΟΣ" = "οδος" := by decide +kernel
  have hassignment : parse "ΟΔΟΣ=a=b.so" = .ok ⟨"οδος", .ofText "a=b.so"⟩ :=
    hlower ▸ parse_reads_back.2 "ΟΔΟΣ" "a=b.so" (by decide) (by decide) (by decide)
  have hpath : parse "/lib/libtree-sitter-Zig.SO" =
      .ok ⟨"zig", .ofText "/lib/libtree-sitter-Zig.SO"⟩ := by
    decide
  refine ⟨hassignment, ?_, hpath, ?_⟩
  · obtain ⟨-, -, path, htext, hback⟩ := parse_reads_back.1 _ _ hassignment
    obtain rfl := Path.ofText_inj.mp (Path.text?_eq_some_iff.mp htext)
    exact hback
  · obtain ⟨-, -, path, htext, hback⟩ := parse_reads_back.1 _ _ hpath
    obtain rfl := Path.ofText_inj.mp (Path.text?_eq_some_iff.mp htext)
    exact hback

end NamedLibrary

end GrammarCheck
