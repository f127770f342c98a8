import CommandShell.Proofs.Canonical

/-!
# Joined paths

What is to be known of a path that has been joined to that of a directory: its names are those of
the directory and then its own (`Path.components_join`), it ends in a slash as it did before
(`Path.endsInSlash_join`), it is no shorter than it was (`Path.size_le_size_join`), and it has no
NUL character that was not there before (`Path.contains_nul_join_iff`).
-/

namespace CommandShell

/-! ## Sizes -/

namespace Text

lemma length_toList_loop (bytes : ByteArray) (i : Nat) (read : List UInt8) :
    (ByteArray.toList.loop bytes i read).length = read.length + (bytes.size - i) := by
  fun_induction ByteArray.toList.loop bytes i read with
  | case1 i read inside ih =>
    rw [ih, List.length_cons]
    omega
  | case2 i read outside =>
    rw [List.length_reverse]
    omega

/-- How many bytes stand for a character that is not stray. -/
lemma length_charBytes {c : Char} (own : isStray c = false) :
    (charBytes c).length = c.utf8Size := by
  have single : c.toString.toUTF8.size = c.utf8Size := by
    have bytes : c.toString.toUTF8.size = c.toString.utf8ByteSize := rfl
    rw [bytes, Char.toString, String.utf8ByteSize_singleton]
  rw [charBytes, if_neg (by rw [own]; exact Bool.false_ne_true), ByteArray.toList,
    length_toList_loop, single]
  simp

lemma size_eq (s : String) : size s = (s.toList.flatMap charBytes).length := by
  unfold size
  split
  · rfl
  · rename_i own
    have own : s.toList.any isStray = false := by
      rw [← String.contains_bool_eq]
      exact Bool.eq_false_iff.2 own
    have plain : ∀ c ∈ s.toList, (charBytes c).length = (String.utf8EncodeChar c).length := by
      intro c hc
      have own := List.any_eq_false.1 own c hc
      rw [length_charBytes (Bool.eq_false_iff.2 own), String.length_utf8EncodeChar]
    have encoded : s.toUTF8 = (s.toList.flatMap String.utf8EncodeChar).toByteArray :=
      String.utf8Encode_toList.symm
    have bytes : s.utf8ByteSize = s.toUTF8.size := rfl
    rw [bytes, encoded, List.size_toByteArray, List.length_flatMap, List.length_flatMap]
    exact congrArg List.sum (List.map_congr_left fun c hc => (plain c hc).symm)

lemma size_append (a b : String) : size (a ++ b) = size a + size b := by
  rw [size_eq, size_eq, size_eq, String.toList_append, List.flatMap_append, List.length_append]

end Text

namespace Path

variable {dir path : String}

/-! ## Names -/

lemma names_of_toList {before after : List Char} (h : path.toList = before ++ '/' :: after) :
    names path = names (String.ofList before) ++ names (String.ofList after) := by
  unfold names
  rw [h, String.toList_ofList, String.toList_ofList, List.splitOn_append_cons_self, List.map_append,
    List.filter_append]

lemma endsInSlash_iff : endsInSlash path = true ↔ ['/'] <:+ path.toList := by
  unfold endsInSlash
  rw [String.endsWith_eq_endsWith_toSlice, String.Slice.endsWith_string_iff, String.copy_toSlice]
  rfl

/-- What a path means in a directory: it is put behind it, with a slash in between unless there is
one. -/
lemma join_eq (relative : isAbsolute path = false) (some : dir ≠ "") :
    join dir path = if endsInSlash dir then dir ++ path else dir ++ "/" ++ path := by
  have nonempty : ¬ dir.isEmpty = true := fun h => some (String.isEmpty_iff.1 h)
  unfold join
  rw [if_neg (by simp [relative, nonempty])]

/-- The names of a path that is joined to a directory. -/
lemma names_join (relative : isAbsolute path = false) (some : dir ≠ "") :
    names (join dir path) = names dir ++ names path := by
  rw [join_eq relative some]
  split
  · rename_i ends
    obtain ⟨front, hfront⟩ := endsInSlash_iff.1 ends
    have whole : (dir ++ path).toList = front ++ '/' :: path.toList := by
      rw [String.toList_append, ← hfront, List.append_assoc]
      rfl
    have none : names (String.ofList []) = [] := rfl
    rw [names_of_toList whole, names_of_toList hfront.symm, String.ofList_toList, none,
      List.append_nil]
  · have whole : (dir ++ "/" ++ path).toList = dir.toList ++ '/' :: path.toList := by
      rw [String.toList_append, String.toList_append, List.append_assoc]
      rfl
    rw [names_of_toList whole, String.ofList_toList, String.ofList_toList]

lemma endsInSlash_append {front : String} (given : path ≠ "") :
    endsInSlash (front ++ path) = endsInSlash path := by
  have some : path.toList ≠ [] := fun h => given (String.toList_eq_nil_iff.1 h)
  rw [Bool.eq_iff_iff, endsInSlash_iff, endsInSlash_iff, String.toList_append,
    List.singleton_suffix_iff_getLast?_eq_some, List.singleton_suffix_iff_getLast?_eq_some,
    List.getLast?_append, List.getLast?_eq_some_getLast some, Option.some_or]

theorem endsInSlash_join (given : path ≠ "") : endsInSlash (join dir path) = endsInSlash path := by
  unfold join
  split
  · rfl
  split
  · exact endsInSlash_append given
  · exact endsInSlash_append given

lemma endsInSlash_join_empty (some : dir ≠ "") : endsInSlash (join dir "") = true := by
  rw [join_eq rfl some]
  split
  · rename_i ends
    rwa [String.append_empty]
  · rw [String.append_empty, endsInSlash_append (by decide)]
    exact endsInSlash_iff.2 (List.suffix_refl _)

lemma join_of_isAbsolute (absolute : isAbsolute path = true) : join dir path = path := by
  unfold join
  rw [if_pos (by rw [absolute]; rfl)]

lemma names_ne_nil (relative : isAbsolute path = false) (given : path ≠ "") :
    names path ≠ [] := by
  intro none
  cases chars : path.toList with
  | nil => exact given (String.toList_eq_nil_iff.1 chars)
  | cons c rest =>
    have other : c ≠ '/' := by
      rintro rfl
      have absolute : isAbsolute path = true := by
        refine String.startsWith_string_iff.2 ?_
        rw [chars]
        exact ⟨rest, rfl⟩
      rw [absolute] at relative
      cases relative
    -- so the first piece is not empty
    obtain ⟨first, pieces, hpieces⟩ := List.exists_cons_of_ne_nil (List.splitOn_ne_nil '/' rest)
    unfold names at none
    rw [chars, List.splitOn_cons_eq_if_modifyHead, if_neg (by simpa using other), hpieces,
      List.modifyHead_cons, List.map_cons, List.filter_eq_nil_iff] at none
    refine none (String.ofList (c :: first)) List.mem_cons_self ?_
    simp

/-- The components of a path that is joined to a directory. -/
theorem components_join (relative : isAbsolute path = false) (some : dir ≠ "") (given : path ≠ "") :
    components (join dir path) = names dir ++ components path := by
  have named : (names path).isEmpty = false := by
    simpa using names_ne_nil relative given
  have joined : (names dir ++ names path).isEmpty = false := by
    simpa using fun _ => names_ne_nil relative given
  unfold components
  rw [names_join relative some, endsInSlash_join given, named, joined]
  split
  · rw [List.append_assoc]
  · rfl

lemma all_components (relative : isAbsolute path = false) (given : path ≠ "") :
    (components path).all (· = "") = false := by
  obtain ⟨name, rest, hnames⟩ := List.exists_cons_of_ne_nil (names_ne_nil relative given)
  have named : name ≠ "" := by
    have own : name ∈ names path := by
      rw [hnames]
      exact List.mem_cons_self
    simpa using (List.mem_filter.1 own).2
  unfold components
  rw [hnames]
  split <;> simp [named]

/-! ## Sizes and characters of joined paths -/

/-- In a directory without a NUL character, a path has one if it had one before. -/
theorem contains_nul_join_iff (clean : '\x00' ∉ dir.toList) :
    (join dir path).contains '\x00' = false ↔ '\x00' ∉ path.toList := by
  have slash : '\x00' ∉ "/".toList := by decide
  have joined : '\x00' ∈ (join dir path).toList ↔ '\x00' ∈ path.toList := by
    unfold join
    split
    · exact Iff.rfl
    split
    · rw [String.toList_append, List.mem_append, or_iff_right clean]
    · rw [String.toList_append, String.toList_append, List.mem_append, List.mem_append,
        or_iff_right (not_or_intro clean slash)]
  rw [← joined]
  simp [String.contains_char_eq]

theorem size_le_size_join (dir path : String) : Text.size path ≤ Text.size (join dir path) := by
  unfold join
  split
  · exact Nat.le_refl _
  split
  · rw [Text.size_append]
    omega
  · rw [Text.size_append]
    omega

end Path

end CommandShell
