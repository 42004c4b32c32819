import Mathlib.Data.List.Basic

/-! # The bytes of a text

A text is encoded character by character. A newline is a byte of its own, and no other character has
that byte in its encoding. An offset that lies between two characters splits a text; one that lies
inside a character does not.
-/

namespace SourceGate

/-! ## Encoding -/

theorem toList_loop_eq (bytes : ByteArray) (i : Nat) (read : List UInt8) :
    ByteArray.toList.loop bytes i read = read.reverse ++ bytes.data.toList.drop i := by
  fun_induction ByteArray.toList.loop bytes i read with
  | case1 i read more ih =>
    have inside : i < bytes.data.toList.length := by simpa using more
    rw [ih, List.drop_eq_getElem_cons inside]
    simp [ByteArray.get!, more]
  | case2 i read done =>
    rw [List.drop_eq_nil_of_le (by simpa using done), List.append_nil]

theorem toList_eq_data (bytes : ByteArray) : bytes.toList = bytes.data.toList := by
  rw [ByteArray.toList, toList_loop_eq, List.reverse_nil, List.nil_append, List.drop_zero]

theorem bytes_eq_flatMap (text : String) :
    text.toUTF8.toList = text.toList.flatMap String.utf8EncodeChar := by
  rw [toList_eq_data, String.toUTF8, ← String.utf8Encode_toList, List.utf8Encode,
    List.toList_data_toByteArray]

namespace Text

/-- The bytes of characters, one after the other. -/
def bytes (text : List Char) : List UInt8 := text.flatMap String.utf8EncodeChar

@[simp] theorem bytes_nil : bytes [] = [] := rfl

theorem bytes_cons (c : Char) (text : List Char) :
    bytes (c :: text) = String.utf8EncodeChar c ++ bytes text := List.flatMap_cons

@[simp] theorem bytes_append (before after : List Char) :
    bytes (before ++ after) = bytes before ++ bytes after := List.flatMap_append

theorem toList_toUTF8 (source : String) : source.toUTF8.toList = bytes source.toList :=
  bytes_eq_flatMap source

theorem length_bytes_cons (c : Char) (text : List Char) :
    (bytes (c :: text)).length = c.utf8Size + (bytes text).length := by
  rw [bytes_cons, List.length_append, String.length_utf8EncodeChar]

/-- The size of a text is the number of its bytes. -/
theorem length_bytes_toList (source : String) :
    (bytes source.toList).length = source.utf8ByteSize := by
  rw [← toList_toUTF8, toList_eq_data, Array.length_toList]
  rfl

/-! ## Newlines -/

/-- The byte of a newline. -/
def newline : UInt8 := 10

theorem encode_newline : String.utf8EncodeChar '\n' = [newline] := rfl

/-- Where a byte of a character is that of a newline, it is all of the character. -/
theorem eq_of_newline_mem {c : Char} (h : newline ∈ String.utf8EncodeChar c) : c = '\n' := by
  have byte {n : Nat} (hn : newline = UInt8.ofNat n) : n % 256 = 10 :=
    (congrArg UInt8.toNat hn).symm
  rw [String.utf8EncodeChar] at h
  split at h
  · next small =>
    have ten := byte (List.mem_singleton.1 h)
    apply Char.ext
    apply UInt32.toNat_inj.1
    change c.val.toNat = 10
    omega
  -- The other bytes are not those of an ASCII character.
  · split at h
    · simp only [List.mem_cons, List.not_mem_nil, or_false] at h
      rcases h with h | h
      all_goals
        have := byte h
        omega
    · split at h
      · simp only [List.mem_cons, List.not_mem_nil, or_false] at h
        rcases h with h | h | h
        all_goals
          have := byte h
          omega
      · simp only [List.mem_cons, List.not_mem_nil, or_false] at h
        rcases h with h | h | h | h
        all_goals
          have := byte h
          omega

theorem count_newline_encode (c : Char) :
    (String.utf8EncodeChar c).count newline = if c = '\n' then 1 else 0 := by
  split
  · next same => rw [same, encode_newline, List.count_singleton_self]
  · next other => exact List.count_eq_zero.2 fun h => other (eq_of_newline_mem h)

theorem count_newline_bytes (text : List Char) : (bytes text).count newline = text.count '\n' := by
  induction text with
  | nil => rfl
  | cons c rest ih =>
    rw [bytes_cons, List.count_append, ih, count_newline_encode, List.count_cons, Nat.add_comm]
    simp

/-- A byte that is not the first of its character comes after no newline of that character. -/
theorem newline_notMem_take {c : Char} {n : Nat} (positive : 0 < n) (inside : n < c.utf8Size) :
    newline ∉ (String.utf8EncodeChar c).take n := by
  intro h
  obtain rfl := eq_of_newline_mem (List.mem_of_mem_take h)
  have one : '\n'.utf8Size = 1 := rfl
  omega

/-! ## Offsets -/

/-- An offset lies between two characters or inside of one, as long as it is not past the end. -/
theorem exists_split {text : List Char} {offset : Nat} (h : offset ≤ (bytes text).length) :
    (∃ before after, text = before ++ after ∧ offset = (bytes before).length) ∨
      ∃ before c after n, text = before ++ c :: after ∧ 0 < n ∧ n < c.utf8Size ∧
        offset = (bytes before).length + n := by
  induction text generalizing offset with
  | nil => exact .inl ⟨[], [], rfl, Nat.le_zero.1 h⟩
  | cons c rest ih =>
    rw [length_bytes_cons] at h
    by_cases first : offset < c.utf8Size
    · rcases Nat.eq_zero_or_pos offset with rfl | positive
      · exact .inl ⟨[], c :: rest, rfl, rfl⟩
      · exact .inr ⟨[], c, rest, offset, rfl, positive, first, (Nat.zero_add _).symm⟩
    · rcases ih (show offset - c.utf8Size ≤ (bytes rest).length by omega) with
        ⟨before, after, rfl, there⟩ | ⟨before, d, after, n, rfl, positive, inside, there⟩
      · refine .inl ⟨c :: before, after, rfl, ?_⟩
        rw [length_bytes_cons]
        omega
      · refine .inr ⟨c :: before, d, after, n, rfl, positive, inside, ?_⟩
        rw [length_bytes_cons]
        omega

/-- The two parts of a text at an offset; `none` inside a character and past the end. -/
def split? : List Char → Nat → Option (List Char × List Char)
  | text, 0 => some ([], text)
  | [], _ + 1 => none
  | c :: rest, n + 1 =>
    if c.utf8Size ≤ n + 1 then
      (split? rest (n + 1 - c.utf8Size)).map fun (before, after) => (c :: before, after)
    else none

theorem split?_zero (text : List Char) : split? text 0 = some ([], text) := by
  cases text <;> rfl

theorem split?_cons (c : Char) (rest : List Char) (n : Nat) :
    split? (c :: rest) (c.utf8Size + n) =
      (split? rest n).map fun (before, after) => (c :: before, after) := by
  obtain ⟨size, hs⟩ : ∃ size, c.utf8Size = size + 1 := ⟨_, (Nat.sub_add_cancel c.utf8Size_pos).symm⟩
  rw [hs, Nat.add_right_comm, split?, if_pos (by omega), hs]
  congr 1
  congr 1
  omega

theorem split?_append (before after : List Char) :
    split? (before ++ after) (bytes before).length = some (before, after) := by
  induction before with
  | nil => exact split?_zero after
  | cons c rest ih =>
    rw [length_bytes_cons, List.cons_append, split?_cons, ih]
    rfl

theorem split?_inside (before : List Char) {c : Char} (after : List Char) {n : Nat}
    (positive : 0 < n) (inside : n < c.utf8Size) :
    split? (before ++ c :: after) ((bytes before).length + n) = none := by
  induction before with
  | nil =>
    obtain ⟨m, rfl⟩ : ∃ m, n = m + 1 := ⟨n - 1, by omega⟩
    rw [bytes_nil, List.length_nil, Nat.zero_add, List.nil_append, split?, if_neg (by omega)]
  | cons d rest ih =>
    rw [length_bytes_cons, List.cons_append, Nat.add_assoc, split?_cons, ih]
    rfl

/-- The characters between two offsets; `none` where one of them does not split the text. -/
def slice? (text : List Char) (first last : Nat) : Option (List Char) :=
  if first ≤ last then
    (split? text first).bind fun parts => (split? parts.2 (last - first)).map (·.1)
  else none

theorem slice?_append (head line after : List Char) :
    slice? (head ++ (line ++ after)) (bytes head).length (bytes (head ++ line)).length =
      some line := by
  rw [bytes_append, List.length_append, slice?, if_pos (Nat.le_add_right _ _), split?_append,
    Option.bind_some, Nat.add_sub_cancel_left, split?_append]
  rfl

theorem slice?_inside (head line : List Char) {c : Char} (after : List Char) {n : Nat}
    (positive : 0 < n) (inside : n < c.utf8Size) :
    slice? (head ++ (line ++ c :: after)) (bytes head).length
      ((bytes (head ++ line)).length + n) = none := by
  rw [bytes_append, List.length_append, Nat.add_assoc, slice?, if_pos (Nat.le_add_right _ _),
    split?_append, Option.bind_some, Nat.add_sub_cancel_left,
    split?_inside line after positive inside]
  rfl

end Text

end SourceGate
