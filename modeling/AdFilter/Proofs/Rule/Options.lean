import AdFilter.Proofs.Rule.Tokens

/-! # What a list of options says

Each token of a list is about one topic. What the list says on a topic can be read off the tokens
that are about it: the last one counts, and for the types also whether the first one adds to none
or takes away from all. So it makes no difference how tokens on different topics are mixed.
-/

namespace AdFilter

open Text

section Runs

variable {σ α β : Type} {step : σ → α → σ}

/-- What a run leaves in a place is what the last step that writes there wrote, or what was there
before. -/
theorem read_foldl (read : σ → Option β) {write : α → Option β}
    (writes : ∀ s a, read (step s a) = (write a).or (read s)) (steps : List α) (s : σ) :
    read (steps.foldl step s) = (steps.filterMap write).getLast?.or (read s) := by
  induction steps generalizing s with
  | nil => rfl
  | cons a steps ih =>
      rw [List.foldl_cons, ih, writes, List.filterMap_cons]
      cases write a with
      | none => rfl
      | some b =>
          rw [List.getLast?_cons, Option.some_or]
          cases (steps.filterMap write).getLast? <;> rfl

theorem flag_foldl (flag : σ → Bool) {sets : α → Bool}
    (step_sets : ∀ s a, flag (step s a) = (flag s || sets a)) (steps : List α) (s : σ) :
    flag (steps.foldl step s) = (flag s || steps.any sets) := by
  induction steps generalizing s with
  | nil => simp
  | cons a steps ih => rw [List.foldl_cons, ih, step_sets, List.any_cons, Bool.or_assoc]

end Runs

namespace RuleOptions

open RuleOption

/-- The mask that the first option naming a type adds to or takes away from. -/
def startMask : Bool → TypeMask
  | true => 0
  | false => .standard

/-- What an option makes of a mask that is already there. -/
def addTo (mask : TypeMask) : RuleOption → TypeMask
  | .type t yes => addType (some mask) t yes
  | _ => mask

section Options

variable (options : List RuleOption) (o : RuleOptions)

theorem addType_eq (types : Option TypeMask) (t : ContentType) (yes : Bool) :
    addType types t yes = addType (some (types.getD (startMask yes))) t yes := by
  cases yes <;> rfl

theorem getLsbD_addTo (mask : TypeMask) (option : RuleOption) (i : Nat) :
    (addTo mask option).getLsbD i = (option.writesBit i).getD (mask.getLsbD i) := by
  cases option with
  | type t yes =>
      cases yes with
      | true =>
          by_cases same : t.bitIndex = i <;>
            simp [addTo, addType, writesBit, t.getLsbD_mask, same]
      | false =>
          by_cases same : t.bitIndex = i <;>
            simp [addTo, addType, writesBit, TypeMask.getLsbD_without_mask, same]
  | matchCase | domains | thirdParty | collapse | unknown => rfl

theorem getLsbD_foldl_addTo (mask : TypeMask) (i : Nat) :
    (options.foldl addTo mask).getLsbD i =
      (options.filterMap (writesBit i)).getLast?.getD (mask.getLsbD i) := by
  have writes (mask : TypeMask) (option : RuleOption) :
      some ((addTo mask option).getLsbD i) = (option.writesBit i).or (some (mask.getLsbD i)) := by
    rw [getLsbD_addTo]
    cases option.writesBit i <;> rfl
  have last := read_foldl (fun mask => some (mask.getLsbD i)) writes options mask
  cases written : (options.filterMap (writesBit i)).getLast? <;> simpa [written] using last

theorem types_foldl_add : (options.foldl add o).conditions.types =
    (o.conditions.types.or ((options.filterMap typeSign).head?.map startMask)).map
      (options.foldl addTo ·) := by
  induction options generalizing o with
  | nil => cases types : o.conditions.types <;> simp [types]
  | cons option options ih =>
      rw [List.foldl_cons, ih]
      cases option with
      | type t yes =>
          have before : o.conditions.types.or (some (startMask yes)) =
              some (o.conditions.types.getD (startMask yes)) := by
            cases o.conditions.types <;> rfl
          simp [add, addTo, typeSign, before, addType_eq o.conditions.types]
      | matchCase | domains | thirdParty | collapse | unknown => rfl

theorem matchCase_foldl_add : (options.foldl add o).conditions.matchCase =
    (o.conditions.matchCase || options.any (· == .matchCase)) := by
  apply flag_foldl fun o : RuleOptions => o.conditions.matchCase
  intro o option
  cases option <;> simp [add]

theorem domains_foldl_add : (options.foldl add o).conditions.domains =
    (options.filterMap writesDomains).getLast?.or o.conditions.domains := by
  apply read_foldl fun o : RuleOptions => o.conditions.domains
  intro o option
  cases option <;> rfl

theorem thirdParty_foldl_add : (options.foldl add o).conditions.thirdParty =
    (options.filterMap writesThirdParty).getLast?.or o.conditions.thirdParty := by
  apply read_foldl fun o : RuleOptions => o.conditions.thirdParty
  intro o option
  cases option <;> rfl

theorem collapse_foldl_add : (options.foldl add o).collapse =
    (options.filterMap writesCollapse).getLast?.or o.collapse := by
  apply read_foldl RuleOptions.collapse
  intro o option
  cases option <;> rfl

theorem namesDocument_foldl_add : (options.foldl add o).namesDocument =
    (o.namesDocument || options.any (· == .type .document true)) := by
  apply flag_foldl RuleOptions.namesDocument
  intro o option
  rw [Bool.eq_iff_iff]
  cases option <;> simp [add, and_comm]

theorem unknown_foldl_add :
    (options.foldl add o).unknown = o.unknown ++ options.filterMap writesUnknown := by
  induction options generalizing o with
  | nil => simp
  | cons option options ih =>
      rw [List.foldl_cons, ih]
      cases option <;> simp [add, List.filterMap_cons, writesUnknown]

end Options

/-- What a list of tokens says: on each topic the last token about it counts. -/
structure LastMention (tokens : List (List Char)) (o : RuleOptions) : Prop where
  types_eq_none : o.conditions.types = none ↔ ∀ token ∈ tokens, typeSign? token = none
  /-- A type that no token names belongs to the mask if the first token to name any type takes one
  away. -/
  has_iff (mask : TypeMask) (types : o.conditions.types = some mask) (t : ContentType) :
    mask.has t = true ↔
      (tokens.filterMap (sign? t.name)).getLast? = some true ∨
        ((∀ token ∈ tokens, sign? t.name token = none) ∧
          (tokens.filterMap typeSign?).head? = some false)
  /-- So it is with the bits of no type, as far as they belong to the standard mask. -/
  getLsbD_iff (mask : TypeMask) (types : o.conditions.types = some mask) (i : Nat)
    (free : ∀ t : ContentType, t.bitIndex ≠ i) :
    mask.getLsbD i = true ↔
      (tokens.filterMap typeSign?).head? = some false ∧ TypeMask.standard.getLsbD i = true
  matchCase_iff : o.conditions.matchCase = true ↔ ∃ token ∈ tokens, nameOf token = "MATCH_CASE"
  domains_eq : o.conditions.domains = (tokens.filterMap domainsOf?).getLast?
  thirdParty_eq : o.conditions.thirdParty = (tokens.filterMap (sign? "THIRD_PARTY")).getLast?
  collapse_eq : o.collapse = (tokens.filterMap (sign? "COLLAPSE")).getLast?
  namesDocument_iff : o.namesDocument = true ↔ ∃ token ∈ tokens, nameOf token = "DOCUMENT"
  unknown_eq : o.unknown = (tokens.filter (topicOf · = .unknown)).map String.ofList

section Tokens

variable {tokens : List (List Char)}

theorem filterMap_map_ofChars {β : Type} {asked : List Char → Option β}
    {write : RuleOption → Option β}
    (same : ∀ token, asked token = write (RuleOption.ofChars token)) (tokens : List (List Char)) :
    (tokens.map RuleOption.ofChars).filterMap write = tokens.filterMap asked := by
  rw [List.filterMap_map]
  exact List.filterMap_congr fun token _ => (same token).symm

theorem types_foldl_ofChars (tokens : List (List Char)) :
    ((tokens.map RuleOption.ofChars).foldl add {}).conditions.types =
      (tokens.filterMap typeSign?).head?.map fun sign =>
        (tokens.map RuleOption.ofChars).foldl addTo (startMask sign) := by
  rw [types_foldl_add, filterMap_map_ofChars typeSign?_eq]
  simp [Function.comp_def]

theorem getLsbD_startMask (sign : Bool) (i : Nat) :
    (startMask sign).getLsbD i = (sign == false && TypeMask.standard.getLsbD i) := by
  cases sign with
  | true => exact BitVec.getLsbD_zero
  | false => rfl

theorem has_foldl_ofChars (tokens : List (List Char)) (sign : Bool) (t : ContentType) :
    ((tokens.map RuleOption.ofChars).foldl addTo (startMask sign)).has t = true ↔
      (tokens.filterMap (sign? t.name)).getLast? = some true ∨
        ((∀ token ∈ tokens, sign? t.name token = none) ∧ sign = false) := by
  have inStandard : TypeMask.standard.getLsbD t.bitIndex = true := TypeMask.has_standard t
  -- without a token that names the type, its bit is that of the mask to begin with
  rw [TypeMask.has, getLsbD_foldl_addTo, filterMap_map_ofChars (sign?_type_eq t),
    ← List.filterMap_eq_nil_iff, getLsbD_startMask, inStandard]
  cases last : (tokens.filterMap (sign? t.name)).getLast? with
  | none => simp [List.getLast?_eq_none_iff.mp last]
  | some yes =>
      have named : tokens.filterMap (sign? t.name) ≠ [] := by
        intro none
        simp [none] at last
      simp [named]

theorem getLsbD_foldl_ofChars (tokens : List (List Char)) (sign : Bool) {i : Nat}
    (free : ∀ t : ContentType, t.bitIndex ≠ i) :
    ((tokens.map RuleOption.ofChars).foldl addTo (startMask sign)).getLsbD i = true ↔
      sign = false ∧ TypeMask.standard.getLsbD i = true := by
  have unwritten (option : RuleOption) : option.writesBit i = none := by
    cases option <;> simp [writesBit, free]
  rw [getLsbD_foldl_addTo, List.filterMap_eq_nil_iff.mpr fun option _ => unwritten option,
    getLsbD_startMask]
  simp

theorem lastMention_foldl (tokens : List (List Char)) :
    LastMention tokens ((tokens.map RuleOption.ofChars).foldl add {}) where
  types_eq_none := by
    rw [types_foldl_ofChars, Option.map_eq_none_iff, List.head?_eq_none_iff,
      List.filterMap_eq_nil_iff]
  has_iff mask types t := by
    rw [types_foldl_ofChars] at types
    obtain ⟨sign, first, rfl⟩ := Option.map_eq_some_iff.mp types
    rw [has_foldl_ofChars, first, Option.some.injEq]
  getLsbD_iff mask types i free := by
    rw [types_foldl_ofChars] at types
    obtain ⟨sign, first, rfl⟩ := Option.map_eq_some_iff.mp types
    rw [getLsbD_foldl_ofChars tokens sign free, first, Option.some.injEq]
  matchCase_iff := by simp [matchCase_foldl_add, ofChars_eq_matchCase]
  domains_eq := by
    rw [domains_foldl_add, filterMap_map_ofChars domainsOf?_eq, Option.or_none]
  thirdParty_eq := by
    rw [thirdParty_foldl_add, filterMap_map_ofChars sign?_thirdParty_eq, Option.or_none]
  collapse_eq := by
    rw [collapse_foldl_add, filterMap_map_ofChars sign?_collapse_eq, Option.or_none]
  namesDocument_iff := by
    simp [namesDocument_foldl_add, ofChars_eq_type, sign?_eq_some, signed, ContentType.name]
  unknown_eq := by
    rw [unknown_foldl_add, filterMap_map_ofChars fun token => (writesUnknown_ofChars token).symm,
      List.nil_append, ← List.filterMap_eq_map, List.filterMap_filter]
    simp

theorem lastMention_ofChars (list : List Char) : LastMention (pieces ',' list) (ofChars list) :=
  lastMention_foldl (pieces ',' list)

theorem LastMention.types_unique {o o' : RuleOptions} (h : LastMention tokens o)
    (h' : LastMention tokens o') : o.conditions.types = o'.conditions.types := by
  cases types : o.conditions.types with
  | none => exact (h'.types_eq_none.mpr (h.types_eq_none.mp types)).symm
  | some mask =>
      cases types' : o'.conditions.types with
      | none => simp [h.types_eq_none.mpr (h'.types_eq_none.mp types')] at types
      | some mask' =>
          rw [Option.some.injEq]
          apply BitVec.eq_of_getLsbD_eq
          intro i _
          rw [Bool.eq_iff_iff]
          -- a bit belongs to a type, or it is one that no token can change
          by_cases typed : ∃ t : ContentType, t.bitIndex = i
          · obtain ⟨t, rfl⟩ := typed
            exact (h.has_iff mask types t).trans (h'.has_iff mask' types' t).symm
          · have free (t : ContentType) : t.bitIndex ≠ i := fun same => typed ⟨t, same⟩
            rw [h.getLsbD_iff mask types i free, h'.getLsbD_iff mask' types' i free]

/-- What tokens say on each topic leaves nothing open. -/
theorem LastMention.unique {o o' : RuleOptions} (h : LastMention tokens o)
    (h' : LastMention tokens o') : o = o' := by
  have types := h.types_unique h'
  have matchCase : o.conditions.matchCase = o'.conditions.matchCase := by
    rw [Bool.eq_iff_iff, h.matchCase_iff, h'.matchCase_iff]
  have namesDocument : o.namesDocument = o'.namesDocument := by
    rw [Bool.eq_iff_iff, h.namesDocument_iff, h'.namesDocument_iff]
  have conditions : o.conditions = o'.conditions := by
    have domains := h.domains_eq.trans h'.domains_eq.symm
    have thirdParty := h.thirdParty_eq.trans h'.thirdParty_eq.symm
    revert types matchCase domains thirdParty
    cases o.conditions
    cases o'.conditions
    simp +contextual
  have collapse := h.collapse_eq.trans h'.collapse_eq.symm
  have unknown := h.unknown_eq.trans h'.unknown_eq.symm
  cases o
  cases o'
  simp_all

section Mixing

variable {tokens' : List (List Char)} {topic : Topic}

end Mixing

/-- Within a topic the order counts. -/
example : ofChars "script,~image".toList ≠ ofChars "~image,script".toList := by
  decide

end Tokens

end RuleOptions

end AdFilter
