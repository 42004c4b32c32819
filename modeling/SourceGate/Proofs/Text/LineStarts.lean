import SourceGate.Proofs.Text.Lines

/-! # Finding a line by where lines start

A line starts at the front of a text and behind every newline byte. The line of an offset is found
by a binary search for the last start that is not behind the offset, and the column by counting the
characters in between. Every search finds a start, and what it gives is what the table of places
gives, at every offset of every text.
-/

namespace SourceGate

/-! ## Binary search -/

/-- The number of entries that have a property, where these are the first ones. It is looked for
between two bounds, which are brought together by half each time. -/
def partitionPoint (p : Nat → Bool) (xs : Array Nat) (low high : Nat) (h : high ≤ xs.size) : Nat :=
  if apart : low < high then
    have : low + (high - low) / 2 < xs.size := by omega
    if p xs[low + (high - low) / 2] then partitionPoint p xs (low + (high - low) / 2 + 1) high h
    else partitionPoint p xs low (low + (high - low) / 2) (by omega)
  else low
termination_by high - low

theorem partitionPoint_eq {p : Nat → Bool} {xs : Array Nat} {low high n : Nat}
    {h : high ≤ xs.size} (above : low ≤ n) (below : n ≤ high)
    (front : ∀ i (hi : i < xs.size), i < n → p xs[i] = true)
    (back : ∀ i (hi : i < xs.size), n ≤ i → p xs[i] = false) :
    partitionPoint p xs low high h = n := by
  fun_induction partitionPoint p xs low high h with
  | case1 low high h apart inside holds ih =>
    -- The entry in the middle has the property, so it is not one of those at the back.
    have beyond : low + (high - low) / 2 < n := by
      by_contra near
      rw [back _ inside (Nat.le_of_not_lt near)] at holds
      cases holds
    exact ih beyond below
  | case2 low high h apart inside fails ih =>
    have within : n ≤ low + (high - low) / 2 := by
      by_contra far
      exact fails (front _ inside (Nat.lt_of_not_le far))
    exact ih above within
  | case3 low high h met => omega

/-! ## Where lines start -/

namespace Text

/-- The offsets behind the newline bytes. -/
def breaks (bs : List UInt8) : List Nat := (bs.zipIdx.filter (·.1 == newline)).map (·.2 + 1)

theorem breaks_concat (bs : List UInt8) (b : UInt8) :
    breaks (bs ++ [b]) = breaks bs ++ if b = newline then [bs.length + 1] else [] := by
  rw [breaks, List.zipIdx_append, List.filter_append, List.map_append, breaks]
  by_cases same : b = newline
  · simp [same]
  · simp [same]

theorem length_breaks (bs : List UInt8) : (breaks bs).length = bs.count newline := by
  induction bs using List.reverseRecOn with
  | nil => rfl
  | append_singleton rest b ih =>
    rw [breaks_concat, List.length_append, List.count_append, ih]
    by_cases same : b = newline
    · simp [same]
    · simp [same]

theorem le_length_of_mem_breaks {bs : List UInt8} {start : Nat} (h : start ∈ breaks bs) :
    start ≤ bs.length := by
  induction bs using List.reverseRecOn with
  | nil => cases h
  | append_singleton rest b ih =>
    rw [List.length_append, List.length_singleton]
    rw [breaks_concat] at h
    rcases List.mem_append.1 h with early | last
    · exact Nat.le_succ_of_le (ih early)
    · split at last
      · exact Nat.le_of_eq (List.mem_singleton.1 last)
      · cases last

/-- More bytes add breaks behind all that were there. -/
theorem exists_breaks_append (bs more : List UInt8) :
    ∃ later, breaks (bs ++ more) = breaks bs ++ later ∧ ∀ start ∈ later, bs.length < start := by
  induction more using List.reverseRecOn with
  | nil => exact ⟨[], by simp, by simp⟩
  | append_singleton rest b ih =>
    obtain ⟨later, split, behind⟩ := ih
    refine ⟨later ++ if b = newline then [(bs ++ rest).length + 1] else [], ?_, ?_⟩
    · rw [← List.append_assoc, breaks_concat, split, List.append_assoc]
    · intro start h
      rcases List.mem_append.1 h with early | last
      · exact behind start early
      · split at last
        · rw [List.mem_singleton.1 last, List.length_append]
          omega
        · cases last

/-- The last start is as far from the end as the last newline. -/
theorem getElem?_count_newline (bs : List UInt8) :
    (0 :: breaks bs)[bs.count newline]? =
      some (bs.length - (bs.rtakeWhile (· ≠ newline)).length) := by
  induction bs using List.reverseRecOn with
  | nil => rfl
  | append_singleton rest b ih =>
    rw [breaks_concat, List.rtakeWhile_concat]
    by_cases same : b = newline
    · simp [same, ← length_breaks]
    · have count : (rest ++ [b]).count newline = rest.count newline := by simp [same]
      rw [count, if_neg same, List.append_nil, ih]
      simp [same]

theorem rtakeWhile_append_of_pos {α : Type} {p : α → Bool} {front back : List α}
    (h : ∀ a ∈ back, p a = true) :
    (front ++ back).rtakeWhile p = front.rtakeWhile p ++ back := by
  rw [List.rtakeWhile, List.rtakeWhile, List.reverse_append,
    List.takeWhile_append_of_pos (by simpa using h), List.reverse_append, List.reverse_reverse]

/-- The bytes behind the last newline are those of the last line. -/
theorem rtakeWhile_bytes (text : List Char) :
    (bytes text).rtakeWhile (· ≠ newline) = bytes (lastLine text) := by
  induction text using List.reverseRecOn with
  | nil => rfl
  | append_singleton rest c ih =>
    have single : bytes [c] = String.utf8EncodeChar c := by
      rw [bytes_cons, bytes_nil, List.append_nil]
    rw [bytes_append, single, lastLine, List.rtakeWhile_concat]
    by_cases same : c = '\n'
    · subst same
      rw [encode_newline, List.rtakeWhile_concat_neg _ _ _ (by simp)]
      rfl
    · rw [rtakeWhile_append_of_pos, ih, if_pos (by simpa using same), bytes_append, single,
        lastLine]
      intro b hb
      have other : b ≠ newline := fun newline => same (eq_of_newline_mem (newline ▸ hb))
      simpa using other

end Text

/-- A text and the offsets at which its lines start. -/
structure LineStarts where
  source : String
  starts : Array Nat

namespace LineStarts

open Text

def ofText (source : String) : LineStarts := ⟨source, (0 :: breaks source.toUTF8.toList).toArray⟩

/-- The place of an offset: the start of its line is looked up under the number of the line, and the
characters from there on are counted. `none` where there is no such start. -/
def locate? (index : LineStarts) (offset : Nat) : Option Location :=
  let offset := min offset index.source.utf8ByteSize
  let line := partitionPoint (· ≤ offset) index.starts 0 index.starts.size (Nat.le_refl _)
  index.starts[line - 1]?.map fun start =>
    let column := ((slice? index.source.toList start offset).map List.length).getD 0
    ⟨line, column + 1⟩

variable {source : String}

/-- The starts that are not behind an offset are those of the bytes before it. -/
theorem partitionPoint_starts {front back : List UInt8} (h : source.toUTF8.toList = front ++ back) :
    partitionPoint (· ≤ front.length) (ofText source).starts 0 (ofText source).starts.size
      (Nat.le_refl _) = front.count newline + 1 := by
  obtain ⟨later, split, behind⟩ := exists_breaks_append front back
  have starts : (ofText source).starts = ((0 :: breaks front) ++ later).toArray := by
    rw [ofText, h, split, List.cons_append]
  have size : (0 :: breaks front).length = front.count newline + 1 := by
    rw [List.length_cons, length_breaks]
  have near : ∀ start ∈ 0 :: breaks front, start ≤ front.length :=
    List.forall_mem_cons.2 ⟨Nat.zero_le _, fun start => le_length_of_mem_breaks⟩
  simp only [starts]
  apply partitionPoint_eq (Nat.zero_le _)
  · rw [List.size_toArray, List.length_append, size]
    exact Nat.le_add_right _ _
  · intro i hi early
    rw [List.getElem_toArray, List.getElem_append_left (size ▸ early), decide_eq_true_iff]
    exact near _ (List.getElem_mem _)
  · intro i hi late
    rw [List.getElem_toArray, List.getElem_append_right (size ▸ late), decide_eq_false_iff_not]
    exact Nat.not_le.2 (behind _ (List.getElem_mem _))

/-- What is found behind the characters `head ++ lastLine before` and some bytes that are no
newline: the line starts behind `head`. -/
theorem locate?_behind {head before : List Char} (parts : head ++ lastLine before = before)
    {rest back : List UInt8} (plain : newline ∉ rest)
    (h : source.toUTF8.toList = (bytes before ++ rest) ++ back) :
    (ofText source).locate? ((bytes before).length + rest.length) =
      some ⟨(endPlace before).line, ((slice? source.toList (bytes head).length
        ((bytes before).length + rest.length)).map List.length).getD 0 + 1⟩ := by
  have count : (bytes before ++ rest).count newline = before.count '\n' := by
    rw [List.count_append, List.count_eq_zero.2 plain, count_newline_bytes, Nat.add_zero]
  have inside : (bytes before ++ rest).length ≤ source.utf8ByteSize := by
    rw [← length_bytes_toList, ← toList_toUTF8, h]
    exact (List.prefix_append _ back).length_le
  have same : min (bytes before ++ rest).length (ofText source).source.utf8ByteSize =
      (bytes before ++ rest).length := Nat.min_eq_left inside
  have start : (bytes before ++ rest).length -
      ((bytes before ++ rest).rtakeWhile (· ≠ newline)).length = (bytes head).length := by
    have other : ∀ b ∈ rest, decide (b ≠ newline) = true := by
      intro b hb
      exact decide_eq_true fun same => plain (same ▸ hb)
    have size := congrArg (fun text => (bytes text).length) parts
    simp only [bytes_append, List.length_append] at size
    rw [rtakeWhile_append_of_pos other, rtakeWhile_bytes, List.length_append, List.length_append]
    omega
  obtain ⟨later, split, -⟩ := exists_breaks_append (bytes before ++ rest) back
  have found : (ofText source).starts[before.count '\n']? = some (bytes head).length := by
    have short : before.count '\n' < (0 :: breaks (bytes before ++ rest)).length := by
      rw [List.length_cons, length_breaks, count]
      exact Nat.lt_succ_self _
    rw [ofText, h, split, List.getElem?_toArray, ← List.cons_append,
      List.getElem?_append_left short, ← count, getElem?_count_newline, start]
  rw [← List.length_append]
  simp only [locate?, same, partitionPoint_starts h, count, Nat.add_sub_cancel, found,
    Option.map_some]
  rfl

/-- The characters of a text, less those of its last line. -/
theorem exists_head (before : List Char) : ∃ head, head ++ lastLine before = before :=
  ⟨before.rdropWhile (· ≠ '\n'), List.rdropWhile_append_rtakeWhile⟩

theorem locate?_boundary {before after : List Char} (h : source.toList = before ++ after) :
    (ofText source).locate? (bytes before).length = some (endPlace before) := by
  obtain ⟨head, parts⟩ := exists_head before
  have encoded : source.toUTF8.toList = (bytes before ++ []) ++ bytes after := by
    rw [toList_toUTF8, h, bytes_append, List.append_nil]
  have found := locate?_behind parts List.not_mem_nil encoded
  have line := slice?_append head (lastLine before) after
  rw [← List.append_assoc, parts, ← h] at line
  rw [List.length_nil, Nat.add_zero, line] at found
  exact found

theorem locate?_inside {before after : List Char} {c : Char} {n : Nat}
    (h : source.toList = before ++ c :: after) (positive : 0 < n) (inside : n < c.utf8Size) :
    (ofText source).locate? ((bytes before).length + n) = some ⟨(endPlace before).line, 1⟩ := by
  obtain ⟨head, parts⟩ := exists_head before
  have encoded : source.toUTF8.toList = (bytes before ++ (String.utf8EncodeChar c).take n) ++
      ((String.utf8EncodeChar c).drop n ++ bytes after) := by
    rw [toList_toUTF8, h, bytes_append, bytes_cons, List.append_assoc,
      ← List.append_assoc (List.take _ _), List.take_append_drop]
  have length : ((String.utf8EncodeChar c).take n).length = n := by
    rw [List.length_take, String.length_utf8EncodeChar, Nat.min_eq_left (Nat.le_of_lt inside)]
  have found := locate?_behind parts (newline_notMem_take positive inside) encoded
  have cut := slice?_inside head (lastLine before) after positive inside
  rw [← List.append_assoc, parts, ← h] at cut
  rw [length, cut] at found
  exact found

theorem locate?_min (source : String) (offset : Nat) :
    (ofText source).locate? (min offset source.utf8ByteSize) = (ofText source).locate? offset := by
  have same : min (min offset source.utf8ByteSize) (ofText source).source.utf8ByteSize =
      min offset (ofText source).source.utf8ByteSize := by
    rw [Nat.min_assoc]
    exact congrArg _ (Nat.min_self _)
  simp only [locate?, same]

/-- Every search finds a start, and gives what the table gives. -/
theorem locate?_eq (source : String) (offset : Nat) :
    (ofText source).locate? offset = some ((LineIndex.ofText source.toList).locate offset) := by
  rw [← locate?_min, ← LineIndex.locate_min, length_bytes_toList]
  have within : min offset source.utf8ByteSize ≤ (bytes source.toList).length := by
    rw [length_bytes_toList]
    exact Nat.min_le_right _ _
  rcases exists_split within with
    ⟨before, after, text, there⟩ | ⟨before, c, after, n, text, positive, inside, there⟩
  · rw [there, locate?_boundary text, text, LineIndex.locate_boundary]
  · rw [there, locate?_inside text positive inside, text,
      LineIndex.locate_inside before after positive inside]

end LineStarts

/-! ## The places of a text -/

/-- An offset that lies between two characters of a text, or at one of its ends. -/
def IsBoundary (source : String) (offset : Nat) : Prop :=
  ∃ before after, source = before ++ after ∧ offset = before.utf8ByteSize

section Boundary

open Text

variable {source : String} {offset first second : Nat}

theorem IsBoundary.exists_append (h : IsBoundary source offset) :
    ∃ before after, source.toList = before ++ after ∧ offset = (bytes before).length := by
  obtain ⟨before, after, rfl, rfl⟩ := h
  exact ⟨before.toList, after.toList, String.toList_append, (length_bytes_toList before).symm⟩

theorem before_of_lt (hf : IsBoundary source first) (hs : IsBoundary source second)
    (less : first < second) : ((LineIndex.ofText source.toList).locate first).Before
      ((LineIndex.ofText source.toList).locate second) := by
  obtain ⟨before, after, text, rfl⟩ := hf.exists_append
  obtain ⟨before', after', text', rfl⟩ := hs.exists_append
  have places : (LineIndex.ofText source.toList).locate (bytes before).length = endPlace before ∧
      (LineIndex.ofText source.toList).locate (bytes before').length = endPlace before' :=
    ⟨text ▸ LineIndex.locate_boundary before after,
      text' ▸ LineIndex.locate_boundary before' after'⟩
  rw [places.1, places.2]
  rcases List.append_eq_append_iff.1 (text.symm.trans text') with
    ⟨between, rfl, -⟩ | ⟨between, rfl, -⟩
  · apply endPlace_before
    rintro rfl
    rw [List.append_nil] at less
    exact Nat.lt_irrefl _ less
  · rw [bytes_append, List.length_append] at less
    omega

end Boundary

/-- How the offsets of a text are located. -/
structure Locates (source : String) : Prop where
  /-- The start of the line is there at every offset, and gives the place that is given. -/
  search (offset : Nat) : (LineStarts.ofText source).locate? offset =
    some ((LineIndex.ofText source.toList).locate offset)
  /-- The line counts the newline bytes before the offset, and the column the characters since. -/
  counted {before after : String} (h : source = before ++ after) :
    (LineIndex.ofText source.toList).locate before.utf8ByteSize =
      ⟨(source.toUTF8.toList.take before.utf8ByteSize).count Text.newline + 1,
        (before.toList.rtakeWhile (· ≠ '\n')).length + 1⟩
  /-- A smaller offset has an earlier place. -/
  ordered {first second : Nat} (hf : IsBoundary source first) (hs : IsBoundary source second)
    (less : first < second) : ((LineIndex.ofText source.toList).locate first).Before
      ((LineIndex.ofText source.toList).locate second)
  /-- Distinct offsets have distinct places. -/
  injective {first second : Nat} (hf : IsBoundary source first) (hs : IsBoundary source second)
    (same : (LineIndex.ofText source.toList).locate first =
      (LineIndex.ofText source.toList).locate second) : first = second
  /-- An offset past the end is taken as the end. -/
  pastEnd {offset : Nat} (h : source.utf8ByteSize ≤ offset) :
    (LineIndex.ofText source.toList).locate offset =
      (LineIndex.ofText source.toList).locate source.utf8ByteSize

theorem locates (source : String) : Locates source where
  search := LineStarts.locate?_eq source
  counted {before after} h := by
    subst h
    have count : (((before ++ after).toUTF8.toList).take before.utf8ByteSize).count Text.newline =
        before.toList.count '\n' := by
      rw [Text.toList_toUTF8, String.toList_append, Text.bytes_append, ← Text.length_bytes_toList,
        List.take_left, Text.count_newline_bytes]
    rw [count, String.toList_append, ← Text.length_bytes_toList, LineIndex.locate_boundary]
    rfl
  ordered := before_of_lt
  injective {first second} hf hs same := by
    rcases Nat.lt_trichotomy first second with less | equal | more
    · exact absurd same (before_of_lt hf hs less).ne
    · exact equal
    · exact absurd same.symm (before_of_lt hs hf more).ne
  pastEnd {offset} h := by
    rw [← LineIndex.locate_min, Text.length_bytes_toList, Nat.min_eq_right h]

/-- Behind a character of two bytes, columns still count characters. -/
example : (LineIndex.ofText "x = 1\ny = 'é' + z\n".toList).locate 17 = ⟨2, 11⟩ := by decide +kernel

end SourceGate
