import AdFilter.Digest.XXH64
import AdFilter.OrderedMap
import AdFilter.Store

/-! # Hiding elements

A hide set holds hiding filters in the order in which they were added. Each gets a key of its own,
under which hits on it are reported.
-/

namespace AdFilter

/-- The hiding filters in effect. -/
structure HideSet where
  members : List FilterId := []
  /-- The texts of all members. -/
  known : List String := []
  /-- The members by their keys. -/
  keys : OrderedMap FilterId := ∅
  deriving Repr, DecidableEq

namespace HideSet

/-- The first key of a text that is free, from an attempt on. -/
def freeKeyFrom? (isFree : String → Bool) (text : String) : Nat → UInt64 → Option String
  | 0, _ => none
  | attempts + 1, attempt =>
    let key := Digest.key text attempt
    if isFree key then some key else freeKeyFrom? isFree text attempts (attempt + 1)

def freeKey? (h : HideSet) (text : String) : Option String :=
  freeKeyFrom? (fun key => !h.keys.contains key) text UInt64.size 0

/-- Adds a hiding filter unless one of its text is there, and gives it a key; tells whether it
was added. If the keys of all attempts are taken, the search for one would go on for ever; here it
ends, and the filter is not added. -/
def add (h : HideSet) (s : Store) (id : FilterId) : Bool × HideSet × Store :=
  match s.get? id with
  | none => (false, h, s)
  | some f =>
    if f.rule.hiding?.isNone || h.known.contains f.text then (false, h, s)
    else
      match h.freeKey? f.text with
      | none => (false, h, s)
      | some key =>
        (true, ⟨h.members ++ [id], f.text :: h.known, h.keys.insert key id⟩,
          s.setKey id (some key))

/-- Takes out the member of a text and its key; tells whether there was one. -/
def remove (h : HideSet) (s : Store) (text : String) : Bool × HideSet × Store :=
  match h.members.find? (s.text? · == some text) with
  | none => (false, h, s)
  | some id =>
    let keys :=
      match (s.get? id).bind (·.key) with
      | some key => h.keys.erase key
      | none => h.keys
    (true, ⟨h.members.erase id, h.known.filter (· != text), keys⟩, s.setKey id none)

def clear (h : HideSet) (s : Store) : HideSet × Store :=
  ({}, h.members.foldl (fun s id => s.setKey id none) s)

def size (h : HideSet) : Nat :=
  h.members.length

def byKey? (h : HideSet) (key : String) : Option FilterId :=
  h.keys.get? key

/-- The selector of a filter, if it is switched on and applies on documents of the host. -/
def selectorOn? (s : Store) (host : String) (id : FilterId) : Option String :=
  (s.get? id).bind fun f =>
    if f.isDisabled then none
    else
      (f.rule.hiding?).bind fun r =>
        if r.restriction.isActiveOn host then some r.selector else none

/-- The selectors that apply on documents of the host, each once. -/
def selectors (h : HideSet) (s : Store) (host : String) : List String :=
  (h.members.filterMap (selectorOn? s host)).eraseDups

/-- What is declared for hidden elements. -/
def declaration : String := "\x7Bdisplay:none !important\x7D"

/-- The style sheet that hides what is to be hidden on documents of the host. -/
def styleSheet (h : HideSet) (s : Store) (host : String) : String :=
  let selectors := h.selectors s host
  if selectors.isEmpty then "" else Text.joinWith ',' selectors ++ declaration

end HideSet

end AdFilter
