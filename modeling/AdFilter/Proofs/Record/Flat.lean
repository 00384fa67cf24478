import AdFilter.Proofs.OrderedMap
import AdFilter.Proofs.Text.Json
import AdFilter.Record.Flat

/-! # Records read back from JSON

The object of a record is read back as a record with the same fields, in the order of their keys.
-/

namespace AdFilter.Record

open OrderedMap Text Json

theorem readQuoted?_writeString (s : String) (rest : List Char) :
    readQuoted? (writeString s ++ rest) = some (s, rest) := by
  have written : writeString s ++ rest = '"' :: (s.toList.flatMap writeChar ++ '"' :: rest) := by
    simp [writeString]
  rw [written, readQuoted?, skipSpace_cons (by decide)]
  simp only [readString?_writeChars, Option.map_some, String.ofList_toList]

def fieldJson (e : String × String) : List Char :=
  writeString e.1 ++ ':' :: writeString e.2

theorem readField?_fieldJson (e : String × String) (rest : List Char) :
    readField? (fieldJson e ++ rest) = some (e, rest) := by
  rw [fieldJson, List.append_assoc, List.cons_append, readField?, readQuoted?_writeString,
    Option.bind_some]
  simp only [skipSpace_cons (c := ':') (by decide), readQuoted?_writeString, Option.map_some]

section Fields

variable {cs rest rest' : List Char} {e : String × String} (read : readField? cs = some (e, rest))

include read

theorem readFields?_end (close : skipSpace rest = '\x7D' :: rest') :
    readFields? cs = some ([e], rest') := by
  rw [readFields?]
  split
  · rename_i noField
    rw [read] at noField
    cases noField
  · rename_i read'
    rw [read] at read'
    cases read'
    split
    · rename_i close'
      rw [close] at close'
      cases close'
      rfl
    · rename_i comma
      rw [close] at comma
      cases comma
    · rename_i notEnd _
      exact absurd close (notEnd _)

theorem readFields?_comma (comma : skipSpace rest = ',' :: rest') :
    readFields? cs = (readFields? rest').map fun (es, rest) => (e :: es, rest) := by
  rw [readFields?]
  split
  · rename_i noField
    rw [read] at noField
    cases noField
  · rename_i read'
    rw [read] at read'
    cases read'
    split
    · rename_i close
      rw [comma] at close
      cases close
    · rename_i comma'
      rw [comma] at comma'
      cases comma'
      rfl
    · rename_i _ notComma
      exact absurd comma (notComma _)

end Fields

theorem readFields?_fieldsJson (e : String × String) (es : List (String × String))
    (rest : List Char) :
    readFields? (commaSeparated ((e :: es).map fieldJson) ++ '\x7D' :: rest) =
      some (e :: es, rest) := by
  induction es generalizing e with
  | nil =>
      have read := readField?_fieldJson e ('\x7D' :: rest)
      exact readFields?_end read (skipSpace_cons (by decide) rest)
  | cons e' es ih =>
      have split : commaSeparated ((e :: e' :: es).map fieldJson) ++ '\x7D' :: rest =
          fieldJson e ++ ',' :: (commaSeparated ((e' :: es).map fieldJson) ++ '\x7D' :: rest) := by
        simp [commaSeparated]
      have read := readField?_fieldJson e
        (',' :: (commaSeparated ((e' :: es).map fieldJson) ++ '\x7D' :: rest))
      rw [split, readFields?_comma read (skipSpace_cons (by decide) _), ih]
      rfl

theorem fieldsJson_begin (e : String × String) (es : List (String × String)) (rest : List Char) :
    ∃ cs, commaSeparated ((e :: es).map fieldJson) ++ rest = '"' :: cs := by
  cases es with
  | nil => exact ⟨_, rfl⟩
  | cons e' es => exact ⟨_, rfl⟩

theorem toList_toJson (r : Record) :
    r.toJson.toList = '\x7B' :: commaSeparated (r.entries.map fieldJson) ++ ['\x7D'] :=
  String.toList_ofList

theorem readRecord?_toJson (r : Record) :
    readRecord? r.toJson.toList = some (ofFields r.entries, []) := by
  rw [toList_toJson, readRecord?, List.cons_append, skipSpace_cons (by decide)]
  cases h : r.entries with
  | nil =>
      have empty : ofFields [] = (∅ : Record) := by
        refine OrderedMap.ext ?_
        simp [ofFields, OrderedMap.ofList, EmptyCollection.emptyCollection, OrderedMap.empty]
      simp [commaSeparated, skipSpace_cons, empty]
  | cons e es =>
      have read := readFields?_fieldsJson e es []
      obtain ⟨cs, begins⟩ := fieldsJson_begin e es ['\x7D']
      rw [begins] at read ⊢
      have quote : skipSpace ('"' :: cs) = '"' :: cs := skipSpace_cons (by decide) cs
      simp only [quote]
      exact congrArg (Option.map fun x => (ofFields x.1, x.2)) read

theorem get?_ofFields (r : Record) (key : String) : (ofFields r.entries).get? key = r.get? key := by
  have perm : (r.entries.mergeSort fun a b => decide (a.1 ≤ b.1)).Perm r.entries :=
    List.mergeSort_perm _ _
  have nodup : ((r.entries.mergeSort fun a b => decide (a.1 ≤ b.1)).map Prod.fst).Nodup :=
    (perm.map Prod.fst).nodup_iff.mpr r.nodup_keys
  refine get?_of_perm ?_ key
  rw [ofFields, ofList_entries, entries_ofList nodup]
  exact perm

/-- A record written as JSON is read back with the same fields. -/
theorem ofJson?_toJson (r : Record) :
    ∃ s, ofJson? r.toJson = some s ∧ ∀ key, s.get? key = r.get? key := by
  refine ⟨ofFields r.entries, ?_, get?_ofFields r⟩
  rw [ofJson?, readRecord?_toJson]
  rfl

end AdFilter.Record
