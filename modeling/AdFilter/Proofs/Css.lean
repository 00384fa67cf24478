import Mathlib.Data.List.Induction
import Mathlib.Data.List.TakeWhile

/-! # Strings in style sheets

A double quote opens a string, which ends at the next one, and in a string a backslash escapes the
character behind it. Values that are put between quotes as they are stay in their strings exactly
if none of them ends in a backslash that escapes the quote behind it.
-/

namespace AdFilter.Css

/-- Where the reader of a style sheet stands. -/
inductive Place where
  | outside
  /-- In a string. -/
  | inside
  /-- In a string, behind a backslash that escapes what follows. -/
  | escaping
  deriving Repr, DecidableEq

namespace Place

def next : Place → Char → Place
  | .outside, c => if c = '"' then .inside else .outside
  | .inside, c => if c = '"' then .outside else if c = '\\' then .escaping else .inside
  | .escaping, _ => .inside

def after (p : Place) (cs : List Char) : Place :=
  cs.foldl next p

end Place

/-- The contents of the strings in a text, of the first of which `begun` has been read if the reader
    stands in it. The last one may have no end. -/
def stringsFrom : Place → List Char → List Char → List (List Char)
  | .outside, _, [] => []
  | _, begun, [] => [begun]
  | .outside, _, c :: cs => stringsFrom (Place.outside.next c) [] cs
  | .inside, begun, c :: cs =>
    if c = '"' then begun :: stringsFrom .outside [] cs
    else stringsFrom (Place.inside.next c) (begun ++ [c]) cs
  | .escaping, begun, c :: cs => stringsFrom .inside (begun ++ [c]) cs

/-- The contents of the strings in a text, as they are written there. -/
def strings (cs : List Char) : List (List Char) :=
  stringsFrom .outside [] cs

/-- The characters of a text that stand outside of strings, from a place on. -/
def plainFrom : Place → List Char → List Char
  | _, [] => []
  | .outside, c :: cs =>
    if c = '"' then plainFrom .inside cs else c :: plainFrom .outside cs
  | p, c :: cs => plainFrom (p.next c) cs

/-- The characters of a text outside of strings, without the quotes. -/
def plain (cs : List Char) : List Char :=
  plainFrom .outside cs

/-- What the content of a string stands for: the backslashes that escape are left out. -/
def meaning : List Char → List Char
  | [] => []
  | c :: cs =>
    if c = '\\' then
      match cs with
      | [] => []
      | d :: cs => d :: meaning cs
    else c :: meaning cs

/-- The text ends in a backslash that is not escaped itself: an odd number of them stands at its
    end. -/
def EndsEscaping (cs : List Char) : Prop :=
  (cs.reverse.takeWhile (· == '\\')).length % 2 = 1

instance (cs : List Char) : Decidable (EndsEscaping cs) :=
  inferInstanceAs (Decidable (_ = _))

/-- A part of a text: characters outside of strings, or a value between quotes. -/
inductive Part where
  | plain (text : List Char)
  | quoted (value : List Char)
  deriving Repr, DecidableEq

namespace Part

def write : Part → List Char
  | .plain text => text
  | .quoted value => '"' :: value ++ ['"']

def value? : Part → Option (List Char)
  | .plain _ => none
  | .quoted value => some value

/-- The characters of a part that are meant to stand outside of strings. -/
def text : Part → List Char
  | .plain text => text
  | .quoted _ => []

end Part

/-- The parts are written one after the other. -/
def write (parts : List Part) : List Char :=
  parts.flatMap Part.write

/-- The parts hold no quotes but those around values. -/
inductive Unquoted : List Part → Prop where
  | nil : Unquoted []
  | plain {text parts} : '"' ∉ text → Unquoted parts → Unquoted (.plain text :: parts)
  | quoted {value parts} : '"' ∉ value → Unquoted parts → Unquoted (.quoted value :: parts)

/-- The values between the quotes of the parts. -/
def values (parts : List Part) : List (List Char) :=
  parts.filterMap Part.value?

section Reading

variable {p : Place} {begun text cs : List Char}

theorem after_append (p : Place) (front back : List Char) :
    p.after (front ++ back) = (p.after front).after back :=
  List.foldl_append

theorem after_plain (noQuote : '"' ∉ text) : Place.outside.after text = .outside := by
  induction text with
  | nil => rfl
  | cons c text ih =>
      obtain ⟨other, noQuote⟩ := not_or.mp (List.mem_cons.not.mp noQuote)
      rw [Place.after, List.foldl_cons, Place.next, if_neg (Ne.symm other)]
      exact ih noQuote

theorem next_ne_outside {c : Char} (other : c ≠ '"') (opened : p ≠ .outside) :
    p.next c ≠ .outside := by
  cases p with
  | outside => exact absurd rfl opened
  | inside =>
      rw [Place.next, if_neg other]
      split <;> simp
  | escaping => simp [Place.next]

theorem after_ne_outside (noQuote : '"' ∉ text) (opened : p ≠ .outside) :
    p.after text ≠ .outside := by
  induction text generalizing p with
  | nil => exact opened
  | cons c text ih =>
      obtain ⟨other, noQuote⟩ := not_or.mp (List.mem_cons.not.mp noQuote)
      exact ih noQuote (next_ne_outside (Ne.symm other) opened)

theorem after_inside (noQuote : '"' ∉ text) :
    Place.inside.after text = if EndsEscaping text then .escaping else .inside := by
  induction text using List.reverseRecOn with
  | nil => rfl
  | append_singleton text c ih =>
      rw [List.mem_append, not_or, List.mem_singleton] at noQuote
      rw [after_append, ih noQuote.1]
      by_cases backslash : c = '\\'
      · subst backslash
        have flips : EndsEscaping (text ++ ['\\']) ↔ ¬ EndsEscaping text := by
          simp only [EndsEscaping, List.reverse_append, List.reverse_singleton,
            List.singleton_append, List.takeWhile_cons, beq_self_eq_true, if_true,
            List.length_cons]
          omega
        by_cases ends : EndsEscaping text <;>
          simp [flips, ends, Place.after, Place.next]
      · have solid : ¬ EndsEscaping (text ++ [c]) := by
          simp [EndsEscaping, backslash]
        rw [if_neg solid]
        split <;> simp [Place.after, Place.next, backslash, Ne.symm noQuote.2]

theorem stringsFrom_plain (noQuote : '"' ∉ text) :
    stringsFrom .outside [] (text ++ cs) = stringsFrom .outside [] cs := by
  induction text with
  | nil => rfl
  | cons c text ih =>
      obtain ⟨other, noQuote⟩ := not_or.mp (List.mem_cons.not.mp noQuote)
      rw [List.cons_append, stringsFrom, Place.next, if_neg (Ne.symm other), ih noQuote]

theorem stringsFrom_content (noQuote : '"' ∉ text) (opened : p ≠ .outside) :
    stringsFrom p begun (text ++ cs) = stringsFrom (p.after text) (begun ++ text) cs := by
  induction text generalizing p begun with
  | nil => simp [Place.after]
  | cons c text ih =>
      obtain ⟨other, noQuote⟩ := not_or.mp (List.mem_cons.not.mp noQuote)
      have behind : p.next c ≠ .outside := next_ne_outside (Ne.symm other) opened
      have step : stringsFrom p begun (c :: (text ++ cs)) =
          stringsFrom (p.next c) (begun ++ [c]) (text ++ cs) := by
        cases p with
        | outside => exact absurd rfl opened
        | inside => rw [stringsFrom, if_neg (Ne.symm other)]
        | escaping => rfl
      rw [List.cons_append, step, ih noQuote behind, List.append_assoc]
      rfl

theorem plainFrom_plain (noQuote : '"' ∉ text) :
    plainFrom .outside (text ++ cs) = text ++ plainFrom .outside cs := by
  induction text with
  | nil => rfl
  | cons c text ih =>
      obtain ⟨other, noQuote⟩ := not_or.mp (List.mem_cons.not.mp noQuote)
      rw [List.cons_append, plainFrom, if_neg (Ne.symm other), ih noQuote, List.cons_append]

theorem plainFrom_content (noQuote : '"' ∉ text) (opened : p ≠ .outside) :
    plainFrom p (text ++ cs) = plainFrom (p.after text) cs := by
  induction text generalizing p with
  | nil => rfl
  | cons c text ih =>
      obtain ⟨other, noQuote⟩ := not_or.mp (List.mem_cons.not.mp noQuote)
      have behind : p.next c ≠ .outside := next_ne_outside (Ne.symm other) opened
      have step : plainFrom p (c :: (text ++ cs)) = plainFrom (p.next c) (text ++ cs) := by
        cases p with
        | outside => exact absurd rfl opened
        | inside | escaping => rfl
      rw [List.cons_append, step, ih noQuote behind]
      rfl

theorem stringsFrom_begun (opened : p ≠ .outside) (begun cs : List Char) :
    ∃ more rest, stringsFrom p begun cs = (begun ++ more) :: rest := by
  induction cs generalizing p begun with
  | nil =>
      cases p with
      | outside => exact absurd rfl opened
      | inside | escaping => exact ⟨[], [], by simp [stringsFrom]⟩
  | cons c cs ih =>
      cases p with
      | outside => exact absurd rfl opened
      | inside =>
          by_cases quote : c = '"'
          · exact ⟨[], stringsFrom .outside [] cs, by simp [stringsFrom, quote]⟩
          · have behind : Place.inside.next c ≠ .outside := next_ne_outside quote opened
            obtain ⟨more, rest, read⟩ := ih behind (begun ++ [c])
            exact ⟨c :: more, rest, by simp [stringsFrom, quote, read]⟩
      | escaping =>
          have opened : Place.inside ≠ .outside := by simp
          obtain ⟨more, rest, read⟩ := ih opened (begun ++ [c])
          exact ⟨c :: more, rest, by simp [stringsFrom, read]⟩

end Reading

section Parts

@[simp] theorem write_plain (text : List Char) (parts : List Part) :
    write (.plain text :: parts) = text ++ write parts := rfl

@[simp] theorem write_quoted (value : List Char) (parts : List Part) :
    write (.quoted value :: parts) = '"' :: value ++ '"' :: write parts := by
  simp [write, Part.write]

@[simp] theorem values_plain (text : List Char) (parts : List Part) :
    values (.plain text :: parts) = values parts := rfl

@[simp] theorem values_quoted (value : List Char) (parts : List Part) :
    values (.quoted value :: parts) = value :: values parts := rfl

@[simp] theorem write_append (parts parts' : List Part) :
    write (parts ++ parts') = write parts ++ write parts' :=
  List.flatMap_append

@[simp] theorem values_append (parts parts' : List Part) :
    values (parts ++ parts') = values parts ++ values parts' :=
  List.filterMap_append

variable {parts : List Part} {value cs : List Char}

theorem stringsFrom_quoted (noQuote : '"' ∉ value) (solid : ¬ EndsEscaping value) :
    stringsFrom .outside [] ('"' :: value ++ '"' :: cs) = value :: stringsFrom .outside [] cs := by
  rw [List.cons_append, stringsFrom, Place.next, if_pos rfl,
    stringsFrom_content noQuote (by simp), after_inside noQuote, if_neg solid, stringsFrom,
    if_pos rfl, List.nil_append]

theorem exists_quote_of_escaping (noQuote : '"' ∉ value) (escapes : EndsEscaping value) :
    ∃ content ∈ stringsFrom .outside [] ('"' :: value ++ '"' :: cs), '"' ∈ content := by
  have opened : Place.inside ≠ .outside := by simp
  obtain ⟨more, rest, read⟩ := stringsFrom_begun opened (value ++ ['"']) cs
  refine ⟨value ++ ['"'] ++ more, ?_, by simp⟩
  rw [List.cons_append, stringsFrom, Place.next, if_pos rfl,
    stringsFrom_content noQuote (by simp), after_inside noQuote, if_pos escapes, stringsFrom,
    List.nil_append, read]
  exact List.mem_cons_self

theorem after_quoted (noQuote : '"' ∉ value) (solid : ¬ EndsEscaping value) (cs : List Char) :
    Place.outside.after ('"' :: value ++ '"' :: cs) = Place.outside.after cs := by
  have inside : Place.inside.after value = .inside := by
    rw [after_inside noQuote, if_neg solid]
  calc Place.outside.after ('"' :: value ++ '"' :: cs)
      = (Place.inside.after value).after ('"' :: cs) := after_append .inside value ('"' :: cs)
    _ = Place.outside.after cs := by rw [inside]; rfl

theorem plainFrom_quoted (noQuote : '"' ∉ value) (solid : ¬ EndsEscaping value) :
    plainFrom .outside ('"' :: value ++ '"' :: cs) = plainFrom .outside cs := by
  rw [List.cons_append, plainFrom, if_pos rfl, plainFrom_content noQuote (by simp),
    after_inside noQuote, if_neg solid]
  rfl

theorem unquoted_of_forall (plain : ∀ part ∈ parts, '"' ∉ part.text)
    (quoted : ∀ value ∈ values parts, '"' ∉ value) : Unquoted parts := by
  induction parts with
  | nil => exact .nil
  | cons part parts ih =>
      obtain ⟨first, others⟩ := List.forall_mem_cons.mp plain
      cases part with
      | plain text => exact .plain first (ih others quoted)
      | quoted value =>
          obtain ⟨noQuote, quoted⟩ := List.forall_mem_cons.mp quoted
          exact .quoted noQuote (ih others quoted)

/-- Behind parts whose values escape no quote the reader stands outside of strings. -/
theorem after_write (h : Unquoted parts) (solid : ∀ value ∈ values parts, ¬ EndsEscaping value) :
    Place.outside.after (write parts) = .outside := by
  induction h with
  | nil => rfl
  | plain noQuote _ ih =>
      rw [write_plain, after_append, after_plain noQuote]
      exact ih solid
  | quoted noQuote _ ih =>
      obtain ⟨first, others⟩ := List.forall_mem_cons.mp solid
      rw [write_quoted, after_quoted noQuote first]
      exact ih others

theorem strings_write (h : Unquoted parts) (solid : ∀ value ∈ values parts, ¬ EndsEscaping value) :
    strings (write parts) = values parts := by
  induction h with
  | nil => rfl
  | plain noQuote _ ih =>
      rw [write_plain, strings, stringsFrom_plain noQuote]
      exact ih solid
  | quoted noQuote _ ih =>
      obtain ⟨first, others⟩ := List.forall_mem_cons.mp solid
      rw [write_quoted, strings, stringsFrom_quoted noQuote first, values_quoted]
      exact congrArg _ (ih others)

/-- What is read outside of strings is what was put there, and what follows the parts is read as if
    it stood alone. -/
theorem plain_write_append (h : Unquoted parts)
    (solid : ∀ value ∈ values parts, ¬ EndsEscaping value) (cs : List Char) :
    plain (write parts ++ cs) = parts.flatMap Part.text ++ plain cs := by
  induction h with
  | nil => rfl
  | @plain text parts noQuote _ ih =>
      have written : write (.plain text :: parts) ++ cs = text ++ (write parts ++ cs) := by simp
      rw [written, plain, plainFrom_plain noQuote, List.flatMap_cons, List.append_assoc]
      exact congrArg _ (ih solid)
  | @quoted value parts noQuote _ ih =>
      obtain ⟨first, others⟩ := List.forall_mem_cons.mp solid
      have written : write (.quoted value :: parts) ++ cs =
          '"' :: value ++ '"' :: (write parts ++ cs) := by simp
      rw [written, plain, plainFrom_quoted noQuote first]
      exact ih others

theorem solid_of_strings (h : Unquoted parts)
    (clean : ∀ content ∈ strings (write parts), '"' ∉ content) :
    ∀ value ∈ values parts, ¬ EndsEscaping value := by
  induction h with
  | nil => simp [values]
  | plain noQuote _ ih =>
      rw [write_plain, strings, stringsFrom_plain noQuote] at clean
      exact ih clean
  | @quoted value parts noQuote _ ih =>
      rw [write_quoted, strings] at clean
      have solid : ¬ EndsEscaping value := by
        intro escapes
        obtain ⟨content, member, quote⟩ := exists_quote_of_escaping noQuote escapes
        exact clean content member quote
      rw [stringsFrom_quoted noQuote solid] at clean
      exact List.forall_mem_cons.mpr ⟨solid, ih (List.forall_mem_cons.mp clean).2⟩

theorem after_write_value {front back : List Char} {before rest : List Part}
    (h : Unquoted (before ++ .quoted (front ++ back) :: rest))
    (solid : ∀ value ∈ values (before ++ .quoted (front ++ back) :: rest), ¬ EndsEscaping value) :
    Place.outside.after (write before ++ '"' :: front) ≠ .outside := by
  induction before with
  | nil =>
      cases h with
      | quoted noQuote _ =>
          exact after_ne_outside (p := .inside)
            (fun quote => noQuote (List.mem_append_left back quote)) (by simp)
  | cons part before ih =>
      cases h with
      | plain noQuote h =>
          rw [write_plain, List.append_assoc, after_append, after_plain noQuote]
          exact ih h solid
      | @quoted value _ noQuote h =>
          obtain ⟨first, others⟩ := List.forall_mem_cons.mp solid
          have written : write (.quoted value :: before) ++ '"' :: front =
              '"' :: value ++ '"' :: (write before ++ '"' :: front) := by simp
          rw [written, after_quoted noQuote first]
          exact ih h others

end Parts

section Meaning

variable {cs : List Char}

theorem mem_meaning {c : Char} (other : c ≠ '\\') (member : c ∈ cs) : c ∈ meaning cs := by
  fun_induction meaning cs with
  | case1 => cases member
  | case2 => exact absurd (List.mem_singleton.mp member) other
  | case3 d cs ih =>
      have rest : c ∈ d :: cs := (List.mem_cons.mp member).resolve_left other
      exact List.mem_cons.mpr ((List.mem_cons.mp rest).imp_right ih)
  | case4 d cs _ ih => exact List.mem_cons.mpr ((List.mem_cons.mp member).imp_right ih)

theorem length_meaning_le (cs : List Char) : (meaning cs).length ≤ cs.length := by
  fun_induction meaning cs with
  | case1 => simp
  | case2 => simp
  | case3 d cs ih =>
      simp only [List.length_cons]
      omega
  | case4 c cs other ih => simpa using ih

theorem length_meaning_lt (escapes : '\\' ∈ cs) : (meaning cs).length < cs.length := by
  fun_induction meaning cs with
  | case1 => cases escapes
  | case2 => simp
  | case3 d cs ih =>
      have := length_meaning_le cs
      simp only [List.length_cons]
      omega
  | case4 c cs other ih =>
      have later := ih (List.mem_of_ne_of_mem (Ne.symm other) escapes)
      simpa using later

theorem solid_of_plain (plain : '\\' ∉ cs) : ¬ EndsEscaping cs := by
  have none : cs.reverse.takeWhile (· == '\\') = [] := by
    refine List.eq_nil_iff_forall_not_mem.mpr fun c member => plain ?_
    rw [← beq_iff_eq.mp (List.mem_takeWhile_imp (p := (· == '\\')) member)]
    exact List.mem_reverse.mp ((List.takeWhile_sublist _).subset member)
  simp [EndsEscaping, none]

theorem meaning_eq_self_iff : meaning cs = cs ↔ '\\' ∉ cs := by
  constructor
  · intro same escapes
    have shorter := length_meaning_lt escapes
    rw [same] at shorter
    exact Nat.lt_irrefl _ shorter
  · intro plain
    fun_induction meaning cs with
    | case1 => rfl
    | case2 => simp at plain
    | case3 => simp at plain
    | case4 c cs other ih => rw [ih fun later => plain (List.mem_cons_of_mem c later)]

end Meaning

end AdFilter.Css
