import AdFilter.Proofs.Url.Bytes
import Mathlib.Data.Bool.AllAny
import Mathlib.Data.List.TakeWhile
import Mathlib.Data.String.Basic

/-! # The parts of a URL

The host of a URL stands behind the last sign that ends the user and in front of the first colon or
behind the first closing bracket. So it is found in every URL that was put together from parts that
hold no delimiter of their neighbours, and where it begins and ends no character is cut.
-/

namespace AdFilter.Url

/-- The characters of a host: a name, or anything in brackets. -/
inductive IsHost : List Char → Prop where
  | name {cs} : cs ≠ [] → (∀ c ∈ cs, endsAuthority c = false ∧ c ≠ '@' ∧ c ≠ ':') →
      cs.head? ≠ some '[' → IsHost cs
  | bracketed {cs} : (∀ c ∈ cs, endsAuthority c = false ∧ c ≠ '@' ∧ c ≠ ']') →
      IsHost ('[' :: cs ++ [']'])

section Host

variable {host tail : List Char}

theorem IsHost.hostOf_append (isHost : IsHost host) {after : List Char}
    (ends : ∀ c ∈ after.head?, c = ':') : hostOf (host ++ after) = host := by
  cases isHost with
  | name nonempty plain bare =>
      obtain ⟨c, cs, rfl⟩ := List.exists_cons_of_ne_nil nonempty
      have noColon : ∀ d ∈ c :: cs, (d != ':') = true := fun d member =>
        bne_iff_ne.mpr (plain d member).2.2
      have stops : after.takeWhile (· != ':') = [] := by
        cases after with
        | nil => rfl
        | cons d after =>
            rw [ends d rfl]
            rfl
      have bare' : (c :: cs ++ after).head? ≠ some '[' := bare
      rw [hostOf_of_head? bare', List.takeWhile_append_of_pos noColon, stops, List.append_nil]
  | bracketed plain =>
      have noBracket : ']' ∉ _ := fun member => (plain ']' member).2.2 rfl
      rw [List.append_assoc, List.singleton_append, hostOf_bracket noBracket]

theorem IsHost.ne_nil (isHost : IsHost host) : host ≠ [] := by
  cases isHost with
  | name nonempty => exact nonempty
  | bracketed => exact List.cons_ne_nil _ _

theorem IsHost.plain (isHost : IsHost host) : ∀ c ∈ host, endsAuthority c = false ∧ c ≠ '@' := by
  cases isHost with
  | name _ plain => exact fun c member => ⟨(plain c member).1, (plain c member).2.1⟩
  | bracketed plain =>
      intro c member
      simp only [List.cons_append, List.mem_cons, List.mem_append, List.not_mem_nil, or_false] at member
      rcases member with rfl | inside | rfl
      · decide
      · exact ⟨(plain c inside).1, (plain c inside).2.1⟩
      · decide

theorem hostOf_prefix (tail : List Char) :
    hostOf tail <+: tail ∧ (':' ∈ hostOf tail → (hostOf tail).head? = some '[') := by
  unfold hostOf
  split
  · rename_i cs
    refine ⟨?_, fun _ => rfl⟩
    have whole := List.takeWhile_append_dropWhile (p := (· != ']')) (l := cs)
    refine ⟨(cs.dropWhile (· != ']')).drop 1, ?_⟩
    rw [List.append_assoc, List.take_append_drop, List.cons_append, whole]
  · refine ⟨List.takeWhile_prefix _, fun colon => ?_⟩
    exact absurd (List.mem_takeWhile_imp colon) (by decide)

end Host

section Cut

/-- The text is what stands before the host, the host and what stands behind it, and the host holds
    none of the characters that set it apart, but for colons in brackets. -/
theorem cutHost?_eq_some {url before host after : List Char}
    (cut : cutHost? url = some (before, host, after)) :
    url = before ++ host ++ after ∧ (∀ c ∈ host, endsAuthority c = false ∧ c ≠ '@') ∧
      (':' ∈ host → host.head? = some '[') := by
  obtain ⟨⟨scheme, rest⟩, isCut, parts⟩ := Option.map_eq_some_iff.mp cut
  obtain ⟨-, -, whole, -⟩ := cutScheme?_eq_some isCut
  obtain ⟨user, tail, split, isSplit, noSign, -⟩ := cutUser_cases (rest.takeWhile (!endsAuthority ·))
  obtain ⟨⟨behind, isHost⟩, colon⟩ := hostOf_prefix tail
  simp only [isSplit, Prod.mk.injEq] at parts
  generalize hostOf tail = host' at parts isHost colon
  obtain ⟨rfl, rfl, rfl⟩ := parts
  have front : url = (scheme ++ user ++ host') ++ (behind ++ rest.dropWhile (!endsAuthority ·)) :=
    calc url = scheme ++ rest := whole
      _ = scheme ++ (rest.takeWhile (!endsAuthority ·) ++ rest.dropWhile (!endsAuthority ·)) := by
        rw [List.takeWhile_append_dropWhile]
      _ = scheme ++ ((user ++ (host' ++ behind)) ++ rest.dropWhile (!endsAuthority ·)) := by
        rw [split, isHost]
      _ = (scheme ++ user ++ host') ++ (behind ++ rest.dropWhile (!endsAuthority ·)) := by simp
  refine ⟨?_, fun c member => ?_, colon⟩
  · rw [← List.length_append, front, List.drop_left]
  · have inTail : c ∈ tail := isHost ▸ List.mem_append_left behind member
    have inAuthority : c ∈ rest.takeWhile (!endsAuthority ·) :=
      split ▸ List.mem_append_right user inTail
    refine ⟨by simpa using List.mem_takeWhile_imp inAuthority, ?_⟩
    rintro rfl
    exact noSign inTail

/-- A URL is cut where its parts were put together, if none of them holds what would end it or set
    off another one. -/
theorem cutHost?_append {scheme user host port rest : List Char} (nonempty : scheme ≠ [])
    (isScheme : ∀ c ∈ scheme, isSchemeChar c = true)
    (inUser : ∀ c ∈ user, endsAuthority c = false) (sign : ∀ c ∈ user.getLast?, c = '@')
    (isHost : IsHost host) (inPort : ∀ c ∈ port, endsAuthority c = false ∧ c ≠ '@')
    (colon : ∀ c ∈ port.head?, c = ':') (ends : ∀ c ∈ rest.head?, endsAuthority c = true) :
    cutHost? (scheme ++ "://".toList ++ user ++ host ++ (port ++ rest)) =
      some (scheme ++ "://".toList ++ user, host, port ++ rest) := by
  have whole : scheme ++ "://".toList ++ user ++ host ++ (port ++ rest) =
      scheme ++ "://".toList ++ (user ++ (host ++ port) ++ rest) := by
    simp only [List.append_assoc]
  have inside : ∀ c ∈ user ++ (host ++ port), (!endsAuthority c) = true := by
    intro c member
    rw [Bool.not_eq_true']
    rcases List.mem_append.mp member with before | member
    · exact inUser c before
    · rcases List.mem_append.mp member with within | after
      · exact (isHost.plain c within).1
      · exact (inPort c after).1
  have stops : rest.takeWhile (!endsAuthority ·) = [] := by
    cases rest with
    | nil => rfl
    | cons c rest => simp [ends c rfl]
  have authority : (user ++ (host ++ port) ++ rest).takeWhile (!endsAuthority ·) =
      user ++ (host ++ port) := by
    rw [List.takeWhile_append_of_pos inside, stops, List.append_nil]
  have noSign : '@' ∉ host ++ port :=
    List.not_mem_append (fun member => (isHost.plain '@' member).2 rfl)
      fun member => (inPort '@' member).2 rfl
  have behind : (scheme ++ "://".toList ++ user ++ host ++ (port ++ rest)).drop
      ((scheme ++ "://".toList ++ user).length + host.length) = port ++ rest := by
    rw [← List.length_append, List.drop_left]
  rw [cutHost?, whole, cutScheme?_append nonempty isScheme, ← whole]
  simp only [Option.map_some, authority, cutUser_append noSign sign, isHost.hostOf_append colon,
    behind]

/-- The parts of a URL, where the user and the port may be missing. -/
structure Parts where
  scheme : String
  user : Option String := none
  host : String
  port : Option String := none
  rest : String := ""

namespace Parts

def before (p : Parts) : String :=
  p.scheme ++ "://" ++ p.user.elim "" (· ++ "@")

def after (p : Parts) : String :=
  p.port.elim "" (":" ++ ·) ++ p.rest

def url (p : Parts) : String :=
  p.before ++ p.host ++ p.after

/-- Each part holds none of the characters that would end it or set off another part. -/
structure WellFormed (p : Parts) : Prop where
  nonempty : p.scheme ≠ ""
  scheme : ∀ c ∈ p.scheme.toList, isSchemeChar c = true
  user : ∀ user ∈ p.user, ∀ c ∈ user.toList, endsAuthority c = false
  host : IsHost p.host.toList
  port : ∀ port ∈ p.port, ∀ c ∈ port.toList, endsAuthority c = false ∧ c ≠ '@'
  rest : ∀ c ∈ p.rest.toList.head?, endsAuthority c = true

theorem WellFormed.cutHost?_url {p : Parts} (wellFormed : p.WellFormed) :
    cutHost? p.url.toList = some (p.before.toList, p.host.toList, p.after.toList) := by
  have nonempty : p.scheme.toList ≠ [] := by simpa using wellFormed.nonempty
  have inUser : ∀ c ∈ (p.user.elim "" (· ++ "@")).toList, endsAuthority c = false := by
    cases present : p.user with
    | none => simp
    | some user =>
        intro c member
        rcases List.mem_append.mp (String.toList_append ▸ member) with inside | last
        · exact wellFormed.user user present c inside
        · rw [List.mem_singleton.mp last]
          decide
  have sign : ∀ c ∈ (p.user.elim "" (· ++ "@")).toList.getLast?, c = '@' := by
    cases p.user <;> simp [String.toList_append]
  have inPort : ∀ c ∈ (p.port.elim "" (":" ++ ·)).toList, endsAuthority c = false ∧ c ≠ '@' := by
    cases present : p.port with
    | none => simp
    | some port =>
        intro c member
        rcases List.mem_append.mp (String.toList_append ▸ member) with first | inside
        · rw [List.mem_singleton.mp first]
          decide
        · exact wellFormed.port port present c inside
  have colon : ∀ c ∈ (p.port.elim "" (":" ++ ·)).toList.head?, c = ':' := by
    cases p.port <;> simp [String.toList_append]
  have cut := cutHost?_append nonempty wellFormed.scheme inUser sign wellFormed.host inPort colon
    wellFormed.rest
  simpa only [url, before, after, String.toList_append] using cut

end Parts

end Cut

section Positions

theorem isValid_of_append {s before after : String} (whole : s = before ++ after) :
    String.Pos.Raw.IsValid s ⟨before.utf8ByteSize⟩ :=
  String.Pos.Raw.isValid_iff_exists_append.mpr ⟨before, after, whole, rfl⟩

end Positions

/-- The host of a URL is found whatever its parts are, if none of them holds what would end it or set
    off another one. In every text in which a host is found, the host begins and ends between
    characters, and none of the characters that set it apart is in it, but for colons in brackets. -/
theorem host_between_parts :
    (∀ p : Parts, p.WellFormed → host? p.url = some p.host) ∧
    ∀ (url : String) (first last : Nat), hostPosition? url = some (first, last) →
      let slice := String.Pos.Raw.extract url ⟨first⟩ ⟨last⟩
      first ≤ last ∧ last ≤ url.utf8ByteSize ∧
      String.Pos.Raw.IsValid url ⟨first⟩ ∧ String.Pos.Raw.IsValid url ⟨last⟩ ∧
      (∀ c ∈ slice.toList, endsAuthority c = false ∧ c ≠ '@') ∧
      (':' ∈ slice.toList → slice.toList.head? = some '[') ∧
      host? url = if slice = "" then none else some slice := by
  refine ⟨fun p wellFormed => ?_, fun url first last found => ?_⟩
  · have nonempty : p.host.toList.isEmpty = false :=
      List.isEmpty_eq_false_iff.mpr wellFormed.host.ne_nil
    simp only [host?, wellFormed.cutHost?_url, Option.bind_some, nonempty, Bool.false_eq_true,
      if_false, String.ofList_toList]
  · rw [hostPosition?_eq] at found
    obtain ⟨⟨before, host, after⟩, cut, same⟩ := Option.map_eq_some_iff.mp found
    obtain ⟨whole, plain, colon⟩ := cutHost?_eq_some cut
    obtain ⟨rfl, rfl⟩ := Prod.mk.inj same
    have parts : url = String.ofList before ++ String.ofList host ++ String.ofList after := by
      rw [← String.ofList_append, ← String.ofList_append, ← whole, String.ofList_toList]
    have slice : String.Pos.Raw.extract url ⟨String.utf8Len before⟩
        ⟨String.utf8Len before + String.utf8Len host⟩ = String.ofList host := by
      rw [parts, ← String.ofList_append, ← String.ofList_append]
      exact String.extract_of_valid before host after
    have begins := isValid_of_append (parts.trans (String.append_assoc ..))
    have ends := isValid_of_append parts
    have size := congrArg String.utf8ByteSize parts
    simp only [String.utf8ByteSize_append, String.utf8ByteSize_ofList] at begins ends size
    simp only [slice, String.toList_ofList]
    refine ⟨Nat.le_add_right _ _, ?_, begins, ends, plain, colon, ?_⟩
    · omega
    · rw [host?, cut, Option.bind_some]
      cases host <;> simp

/-- Delimiters in the user and behind the host, and characters of two bytes in front of the host. -/
theorem host_between_parts_nested :
    let p : Parts :=
      { scheme := "https", user := some "é:[@x", host := "[é::1]", port := some "8:0",
        rest := "?a@b://c" }
    p.WellFormed ∧ p.url = "https://é:[@x@[é::1]:8:0?a@b://c" ∧ host? p.url = some "[é::1]" ∧
      hostPosition? p.url = some (15, 22) ∧ String.Pos.Raw.IsValid p.url ⟨15⟩ ∧
      String.Pos.Raw.IsValid p.url ⟨22⟩ := by
  intro p
  have brackets : p.host.toList = '[' :: "é::1".toList ++ [']'] := by decide +kernel
  have mark : p.rest.toList.head? = some '?' := by decide +kernel
  have wellFormed : p.WellFormed := by
    refine ⟨by decide, List.all_iff_forall_prop.mp (by decide +kernel), ?_, ?_, ?_, ?_⟩
    · rintro user ⟨⟩
      exact List.all_iff_forall_prop.mp (by decide +kernel)
    · rw [brackets]
      exact .bracketed (List.all_iff_forall_prop.mp (by decide +kernel))
    · rintro port ⟨⟩
      exact List.all_iff_forall_prop.mp (by decide +kernel)
    · rw [mark]
      rintro c ⟨⟩
      rfl
  obtain ⟨found, positions⟩ := host_between_parts
  have position : hostPosition? p.url = some (15, 22) := by decide +kernel
  obtain ⟨-, -, begins, ends, -⟩ := positions p.url 15 22 position
  exact ⟨wellFormed, by decide +kernel, found p wellFormed, position, begins, ends⟩

end AdFilter.Url
