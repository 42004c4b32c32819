import SourceGate.Data.Json.Reader
import SourceGate.Data.Toml.Reader
import SourceGate.Proofs.Data.Scan

/-! # The integers of a document

An integer that is read, in whatever format and however deep in its document, is less than the
number of words of 64 bits: the readers have no value for a greater one.
-/

namespace SourceGate

theorem exists_of_mem_mapM {α β : Type} {f : α → Option β} {as : List α} {bs : List β}
    (h : as.mapM f = some bs) {b : β} (hb : b ∈ bs) : ∃ a ∈ as, f a = some b := by
  induction as generalizing bs with
  | nil =>
    cases h
    cases hb
  | cons a rest ih =>
    rw [List.mapM_cons] at h
    obtain ⟨first, found, h⟩ := Option.bind_eq_some_iff.1 h
    obtain ⟨more, later, h⟩ := Option.bind_eq_some_iff.1 h
    cases h
    rcases List.mem_cons.1 hb with rfl | hb
    · exact ⟨a, List.mem_cons_self, found⟩
    · obtain ⟨a', member, same⟩ := ih later hb
      exact ⟨a', List.mem_cons_of_mem _ member, same⟩

namespace Data

/-- An integer stands somewhere in the data. -/
inductive Holds (n : Int) : Data → Prop where
  | int : Holds n (.int n)
  | item {items d} (member : d ∈ items) (inside : Holds n d) : Holds n (.list items)
  | field {fields name d} (member : (name, d) ∈ fields) (inside : Holds n d) :
      Holds n (.record fields)

/-- Every integer in the data is less than the number of words. -/
def FitsWords (d : Data) : Prop := ∀ n, d.Holds n → n < Word.count

theorem fitsWords_int {n : Int} (h : n < Word.count) : (int n).FitsWords := by
  rintro _ ⟨⟩
  exact h

theorem fitsWords_list {items : List Data} :
    (list items).FitsWords ↔ ∀ d ∈ items, d.FitsWords := by
  constructor
  · exact fun h d member n inside => h n (.item member inside)
  · rintro h n (_ | ⟨member, inside⟩)
    exact h _ member n inside

theorem fitsWords_record {fields : List (String × Data)} :
    (record fields).FitsWords ↔ ∀ field ∈ fields, field.2.FitsWords := by
  constructor
  · exact fun h field member n inside => h n (.field member inside)
  · rintro h n (_ | _ | ⟨member, inside⟩)
    exact h _ member n inside

theorem fitsWords_null : null.FitsWords := by rintro _ ⟨⟩
theorem fitsWords_flag (b : Bool) : (flag b).FitsWords := by rintro _ ⟨⟩
theorem fitsWords_text (s : String) : (text s).FitsWords := by rintro _ ⟨⟩
theorem fitsWords_moment : moment.FitsWords := by rintro _ ⟨⟩
theorem fitsWords_other : other.FitsWords := by rintro _ ⟨⟩

end Data

open Data Scan

/-! ## JSON -/

namespace Json

theorem yields_token {α : Type} {scan : Scan α} {P : α → Prop} (h : scan.Yields P) :
    (token scan).Yields P :=
  h.bind fun _ ha => .behind fun _ => yields_pure ha

theorem yields_number : number.Yields FitsWords := by
  refine .behind fun minus => .behind fun digits => .behind fun fraction => .behind fun power => ?_
  split
  · exact yields_pure fitsWords_other
  · split
    · refine yields_pure ?_
      split
      · exact fitsWords_other
      · exact fitsWords_int (by simp only [Word.count]; omega)
    · refine yields_pure ?_
      split
      · next small => exact fitsWords_int (by exact_mod_cast small)
      · exact fitsWords_other

theorem fitsWords_recordOf {fields : List (Option String × Data)}
    (h : ∀ field ∈ fields, field.2.FitsWords) : (recordOf fields).FitsWords := by
  unfold recordOf
  split
  · next named decoded =>
    rw [fitsWords_record]
    intro field member
    obtain ⟨given, among, same⟩ := exists_of_mem_mapM decoded member
    obtain ⟨name, -, rfl⟩ := Option.map_eq_some_iff.1 same
    exact h given among
  · exact fitsWords_other

theorem yields_value (depth : Nat) : (value depth).Yields FitsWords := by
  induction depth with
  | zero => exact yields_failure
  | succ depth ih =>
    refine .behind fun next => ?_
    split
    · exact .behind fun _ => yields_pure fitsWords_null
    · exact .behind fun _ => yields_pure (fitsWords_flag true)
    · exact .behind fun _ => yields_pure (fitsWords_flag false)
    · refine .behind fun found => yields_pure ?_
      split
      · exact fitsWords_text _
      · exact fitsWords_other
    · refine .behind fun _ => ((yields_token ih).sepBy _).bind fun items fit => ?_
      exact .behind fun _ => yields_pure (fitsWords_list.2 fit)
    · have field : (do
          let name ← token text
          token (Scan.char ':')
          return (name, ← token (value depth)) : Scan (Option String × Data)).Yields
            fun field => field.2.FitsWords :=
        .behind fun _ => .behind fun _ => (yields_token ih).bind fun _ fits => yields_pure fits
      refine .behind fun _ => (field.sepBy _).bind fun fields fit => ?_
      exact .behind fun _ => yields_pure (fitsWords_recordOf fit)
    · exact yields_number

theorem fitsWords_of_read? {source : String} {d : Data} (h : read? source = some d) :
    d.FitsWords :=
  Yields.ofText (.behind fun _ => yields_token (yields_value _)) h

end Json

/-! ## TOML -/

namespace Toml

theorem fieldsOf_eq (entries : Entries) :
    fieldsOf entries = entries.map fun entry => (entry.1, entry.2.data) := by
  induction entries with
  | nil => rw [fieldsOf, List.map_nil]
  | cons entry rest ih => rw [fieldsOf, ih, List.map_cons]

theorem rowsOf_eq (rows : List Entries) :
    rowsOf rows = rows.map fun row => Data.record (fieldsOf row) := by
  induction rows with
  | nil => rw [rowsOf, List.map_nil]
  | cons row rest ih => rw [rowsOf, ih, List.map_cons]

/-- The integers of a table are less than the number of words. -/
def Entries.FitWords (entries : Entries) : Prop := ∀ entry ∈ entries, entry.2.data.FitsWords

theorem fitsWords_fieldsOf {entries : Entries} :
    (Data.record (fieldsOf entries)).FitsWords ↔ entries.FitWords := by
  rw [fitsWords_record, fieldsOf_eq, List.forall_mem_map]
  rfl

theorem fitsWords_table {origin : Origin} {entries : Entries} :
    (Node.table origin entries).data.FitsWords ↔ entries.FitWords := by
  rw [Node.data, fitsWords_fieldsOf]

theorem fitsWords_rows {rows : List Entries} :
    (Node.rows rows).data.FitsWords ↔ ∀ row ∈ rows, row.FitWords := by
  rw [Node.data, fitsWords_list, rowsOf_eq, List.forall_mem_map]
  simp only [fitsWords_fieldsOf]

namespace Entries

variable {entries : Entries} {key : String} {node : Node}

theorem fitWords_nil : FitWords [] := by simp [FitWords]

theorem FitWords.of_get? (h : entries.FitWords) (found : entries.get? key = some node) :
    node.data.FitsWords := by
  obtain ⟨entry, first, rfl⟩ := Option.map_eq_some_iff.1 found
  exact h entry (List.mem_of_find?_eq_some first)

theorem FitWords.set (h : entries.FitWords) (hn : node.data.FitsWords) :
    (entries.set key node).FitWords := by
  induction entries with
  | nil => simpa [Entries.set, FitWords] using hn
  | cons entry rest ih =>
    obtain ⟨k, old⟩ := entry
    obtain ⟨first, later⟩ := List.forall_mem_cons.1 h
    rw [Entries.set]
    split
    · exact List.forall_mem_cons.2 ⟨hn, later⟩
    · exact List.forall_mem_cons.2 ⟨first, ih later⟩

/-- A change that keeps the bound keeps it at the end of any path. -/
theorem FitWords.alter {byDots : Bool} {change : Origin → Entries → Option Entries}
    (keeps : ∀ {origin entries changed}, FitWords entries → change origin entries = some changed →
      changed.FitWords)
    {path : List String} {origin : Origin} {changed : Entries} (h : entries.FitWords)
    (done : alter byDots change path origin entries = some changed) : changed.FitWords := by
  induction path generalizing origin entries changed with
  | nil => exact keeps h done
  | cons key path ih =>
    rw [Entries.alter] at done
    split at done
    · obtain ⟨inner, below, done⟩ := Option.bind_eq_some_iff.1 done
      cases done
      exact h.set (fitsWords_table.2 (ih fitWords_nil below))
    · next old entries found =>
      split at done
      · cases done
      · obtain ⟨inner, below, done⟩ := Option.bind_eq_some_iff.1 done
        cases done
        exact h.set (fitsWords_table.2 (ih (fitsWords_table.1 (h.of_get? found)) below))
    · next rows found =>
      have fit := fitsWords_rows.1 (h.of_get? found)
      split at done
      · next last ends =>
        obtain ⟨inner, below, done⟩ := Option.bind_eq_some_iff.1 done
        cases done
        have fits := ih (fit last (List.mem_of_getLast? ends)) below
        refine h.set (fitsWords_rows.2 (List.forall_mem_append.2 ⟨fun row member => ?_, ?_⟩))
        · exact fit row (List.dropLast_subset rows member)
        · exact List.forall_mem_singleton.2 fits
      · cases done
    · cases done

theorem FitWords.add (h : entries.FitWords) {path : List String} {value : Data}
    (fits : value.FitsWords) {changed : Entries}
    (done : entries.add path key value = some changed) : changed.FitWords := by
  refine FitWords.alter (fun {origin entries changed} fit change => ?_) h done
  split at change
  · cases change
  · split at change
    · cases change
    · cases change
      exact fit.set (by rwa [Node.data])

theorem FitWords.addAll {added : List Entry} (h : entries.FitWords)
    (fit : ∀ e ∈ added, e.value.FitsWords) {changed : Entries}
    (done : addAll entries added = some changed) : changed.FitWords := by
  induction added generalizing entries with
  | nil =>
    cases done
    exact h
  | cons e rest ih =>
    obtain ⟨first, later⟩ := List.forall_mem_cons.1 fit
    obtain ⟨between, placed, done⟩ := Option.bind_eq_some_iff.1 done
    exact ih (h.add first placed) later done

/-- What a header opens is filled with entries and put in its place. -/
theorem FitWords.setFilled {known : Entries} {added : List Entry} {wrap : Entries → Node}
    (h : entries.FitWords) (fits : known.FitWords) (fit : ∀ e ∈ added, e.value.FitsWords)
    (wraps : ∀ inner, FitWords inner → (wrap inner).data.FitsWords) {changed : Entries}
    (done : ((Toml.addAll known added).bind fun inner => some (entries.set key (wrap inner))) =
      some changed) : changed.FitWords := by
  obtain ⟨inner, filled, ⟨⟩⟩ := Option.bind_eq_some_iff.1 done
  exact h.set (wraps inner (fits.addAll fit filled))

theorem FitWords.addSection {s : Section} (h : entries.FitWords)
    (fit : ∀ e ∈ s.entries, e.value.FitsWords) {changed : Entries}
    (done : addSection entries s = some changed) : changed.FitWords := by
  unfold Toml.addSection at done
  split at done
  · exact h.addAll fit done
  · next path key same =>
    refine FitWords.alter (fun {origin entries changed} inside change => ?_) h done
    have wraps (inner : Entries) : FitWords inner → (Node.table .written inner).data.FitsWords :=
      fitsWords_table.2
    dsimp only at change
    split at change
    · exact inside.setFilled fitWords_nil fit wraps change
    · next found =>
      split at change
      · exact inside.setFilled (fitsWords_table.1 (inside.of_get? found)) fit wraps change
      · cases change
    · cases change
  · next path key same =>
    refine FitWords.alter (fun {origin entries changed} inside change => ?_) h done
    have wraps {known : List Entries} (fits : ∀ row ∈ known, row.FitWords) (inner : Entries)
        (last : FitWords inner) : (Node.rows (known ++ [inner])).data.FitsWords :=
      fitsWords_rows.2 (List.forall_mem_append.2 ⟨fits, List.forall_mem_singleton.2 last⟩)
    dsimp only at change
    split at change
    · exact inside.setFilled fitWords_nil fit (wraps (by simp)) change
    · next found =>
      have rows := fitsWords_rows.1 (inside.of_get? found)
      exact inside.setFilled fitWords_nil fit (wraps rows) change
    · cases change

theorem FitWords.addSections {sections : List Section} (h : entries.FitWords)
    (fit : ∀ s ∈ sections, ∀ e ∈ s.entries, e.value.FitsWords) {changed : Entries}
    (done : sections.foldlM Toml.addSection entries = some changed) : changed.FitWords := by
  induction sections generalizing entries with
  | nil =>
    cases done
    exact h
  | cons s rest ih =>
    obtain ⟨first, later⟩ := List.forall_mem_cons.1 fit
    obtain ⟨between, put, done⟩ := Option.bind_eq_some_iff.1 done
    exact ih (h.addSection first put) later done

end Entries

theorem yields_intOf (n : Int) : (intOf n).Yields FitsWords := by
  unfold intOf
  split
  · next inside =>
    refine yields_pure (fitsWords_int ?_)
    simp only [Bool.and_eq_true, decide_eq_true_eq] at inside
    have : Word.signedCount ≤ Word.count := by decide
    omega
  · exact yields_failure

theorem yields_int : int.Yields FitsWords := by
  have based (opening : String) (base : Nat) (p : Char → Bool) :
      (based opening base p).Yields FitsWords :=
    .behind fun _ => .behind fun _ => yields_intOf _
  have decimal : decimalInt.Yields FitsWords := .behind fun _ => .behind fun _ => yields_intOf _
  exact (based _ _ _).orElse ((based _ _ _).orElse ((based _ _ _).orElse decimal))

theorem yields_fraction : fraction.Yields FitsWords := by
  refine .behind fun _ => .behind fun _ => .behind fun places => .behind fun power => ?_
  have end_of (refused : Bool) :
      (if refused then failure else return .other : Scan Data).Yields FitsWords := by
    cases refused with
    | false => exact yields_pure fitsWords_other
    | true => exact yields_failure
  split
  · exact .behind fun _ => end_of _
  · exact end_of _

theorem yields_scalar : scalar.Yields FitsWords := by
  have text : (do return .text (← text) : Scan Data).Yields FitsWords :=
    .behind fun _ => yields_pure (fitsWords_text _)
  have moment : moment.Yields FitsWords := .behind fun _ => yields_pure fitsWords_moment
  have special : special.Yields FitsWords :=
    .behind fun _ => .behind fun _ => yields_pure fitsWords_other
  have flag : flag.Yields FitsWords :=
    Yields.orElse (.behind fun _ => yields_pure (fitsWords_flag true))
      (.behind fun _ => yields_pure (fitsWords_flag false))
  have numeric := yields_fraction.orElse (special.orElse (yields_int.orElse flag))
  exact text.orElse (moment.orElse numeric)

/-- The value of an entry is one that is scanned. -/
theorem yields_entry {value : Scan Data} (h : value.Yields FitsWords) :
    (entry value).Yields fun e => e.value.FitsWords := by
  refine .behind fun names => ?_
  split
  · exact .behind fun _ => .behind fun _ => h.bind fun _ fits => yields_pure fits
  · exact yields_failure

theorem yields_list {value : Scan Data} (h : value.Yields FitsWords) :
    (list value).Yields FitsWords := by
  have item : (do
      gaps
      let item ← value
      gaps
      return item : Scan Data).Yields FitsWords :=
    .behind fun _ => h.bind fun _ fits => .behind fun _ => yields_pure fits
  refine .behind fun _ => .behind fun _ => (item.sepBy _).bind fun items fit => ?_
  have close : (do gaps; Scan.char ']'; return .list items : Scan Data).Yields FitsWords :=
    .behind fun _ => .behind fun _ => yields_pure (fitsWords_list.2 fit)
  dsimp only
  split
  · exact close
  · exact .behind fun _ => close

theorem yields_inlineTable {value : Scan Data} (h : value.Yields FitsWords) :
    (inlineTable value).Yields FitsWords := by
  have item : (do
      let e ← entry value
      spaces
      return e : Scan Entry).Yields fun e => e.value.FitsWords :=
    (yields_entry h).bind fun _ fits => .behind fun _ => yields_pure fits
  refine .behind fun _ => .behind fun _ => (item.sepBy _).bind fun added fit => ?_
  refine .behind fun _ => .behind fun _ => ?_
  split
  · next put => exact yields_pure (fitsWords_fieldsOf.2 (Entries.fitWords_nil.addAll fit put))
  · exact yields_failure

theorem yields_value (depth : Nat) : (value depth).Yields FitsWords := by
  induction depth with
  | zero => exact yields_scalar
  | succ depth ih => exact yields_scalar.orElse ((yields_list ih).orElse (yields_inlineTable ih))

theorem yields_document :
    document.Yields fun sections => ∀ s ∈ sections, ∀ e ∈ s.entries, e.value.FitsWords := by
  have line : entryLine.Yields fun e => e.value.FitsWords :=
    (yields_entry (yields_value _)).bind fun _ fits =>
      .behind fun _ => .behind fun _ => yields_pure fits
  have headed : (do
      let header ← headerLine
      return ⟨header, ← Scan.many entryLine⟩ : Scan Section).Yields
        fun s => ∀ e ∈ s.entries, e.value.FitsWords :=
    .behind fun _ => line.many.bind fun _ fit => yields_pure fit
  refine .behind fun _ => .behind fun _ => line.many.bind fun first fit => ?_
  exact headed.many.bind fun rest fits => yields_pure (List.forall_mem_cons.2 ⟨fit, fits⟩)

theorem fitsWords_of_read? {source : String} {d : Data} (h : read? source = some d) :
    d.FitsWords := by
  obtain ⟨sections, scanned, h⟩ := Option.bind_eq_some_iff.1 h
  obtain ⟨entries, put, ⟨⟩⟩ := Option.bind_eq_some_iff.1 h
  exact fitsWords_fieldsOf.2
    (Entries.fitWords_nil.addSections (yields_document.ofText scanned) put)

end Toml

end SourceGate
