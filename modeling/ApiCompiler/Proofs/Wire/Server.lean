import ApiCompiler.Proofs.Host.Name
import ApiCompiler.Proofs.Text.Numeral
import ApiCompiler.Wire.Url
import Mathlib.Data.List.TakeWhile

/-!
# Servers of addresses

Which server an address leads to, and that it stays the same when an address is written and read
again with another path and query. A host and a port number are found again behind the user, because
none of the characters that they are written in ends them.
-/

namespace ApiCompiler.Wire

open Text

namespace Url

/-- The port number that a scheme implies. -/
def usualPort? (scheme : List Char) : Option Int :=
  (usualPorts.find? (·.1.toList == scheme)).map (·.2)

/-- The port number of an address, which its scheme may imply. -/
def portNumber? (url : Url) : Option Int :=
  url.port <|> usualPort? url.scheme

/-- Two addresses lead to the same server. Hosts are the same in small and in capital letters. -/
structure SameServer (first second : Url) : Prop where
  scheme : first.scheme = second.scheme
  host : first.host.map Char.toLower = second.host.map Char.toLower
  port : first.portNumber? = second.portNumber?

theorem SameServer.refl (url : Url) : SameServer url url :=
  ⟨rfl, rfl, rfl⟩

theorem SameServer.trans {first second third : Url} (left : SameServer first second)
    (right : SameServer second third) : SameServer first third :=
  ⟨left.scheme.trans right.scheme, left.host.trans right.host, left.port.trans right.port⟩

/-- A host is written in the characters of hosts, or it is a long address. -/
def IsHost (host : List Char) : Prop :=
  (∀ character ∈ host, isHostSafe character = true) ∨ (Host.isLongAddress host = true ∧ '@' ∉ host)

theorem toLower_toLower (character : Char) : character.toLower.toLower = character.toLower := by
  by_cases ascii : character.toNat < 0x80
  · exact forall_ascii (fun character => character.toLower.toLower = character.toLower)
      (by decide +kernel) ascii
  · have kept : character.toLower = character :=
      dif_neg fun capital => ascii (toNat_lt_of_le capital.2 (by decide))
    rw [kept, kept]

theorem isHostSafe_of_looksLikeOctets {host : List Char}
    (octets : Host.looksLikeOctets host = true) :
    ∀ character ∈ host, isHostSafe character = true := by
  intro character member
  simp only [Host.looksLikeOctets, Bool.and_eq_true, List.all_eq_true] at octets
  rw [← joinWith_splitAt '.' host] at member
  rcases mem_joinWith member with ⟨piece, held, inside⟩ | dot
  · have digit := (octets.2 piece held).2 character inside
    simp [isHostSafe, isUnreserved, digit]
  · rw [List.mem_singleton.mp dot]
    decide

/-- Long addresses have colons. -/
theorem colon_mem_of_isLongAddress {host : List Char} (long : Host.isLongAddress host = true) :
    ':' ∈ host := by
  by_contra absent
  have uncut : ':' ∉ host.takeWhile (· != '%') :=
    fun member => absent (List.takeWhile_subset _ member)
  simp only [Host.isLongAddress, splitAt_eq_singleton uncut, Bool.and_eq_true] at long
  -- Octets add a second group to the only one, and there have to be more.
  have few := long.2
  simp only [Host.withoutOctets, List.getLast?_singleton] at few
  split at few
  · simp [Host.areGroups] at few
  · split at few
    · simp [Host.areGroups] at few
    · simp at few

theorem eq_of_bracketed {host : List Char} (first : host.head? = some '[')
    (last : host.getLast? = some ']') : host = '[' :: (host.drop 1).dropLast ++ [']'] := by
  obtain ⟨front, rfl⟩ := List.getLast?_eq_some_iff.mp last
  cases front with
  | nil => exact absurd first (by decide)
  | cons character inner =>
      obtain rfl := Option.some.inj first
      rw [List.cons_append, List.drop_one, List.tail_cons, List.dropLast_concat, List.cons_append]

theorem writeHost_of_isHostSafe {url : Url}
    (safe : ∀ character ∈ url.host, isHostSafe character = true) : url.writeHost = url.host := by
  refine if_neg fun colon => ?_
  exact not_mem_of_isHostSafe (safe ':' (List.contains_iff_mem.mp colon)) (by decide)

theorem writeHost_of_isLongAddress {url : Url} (long : Host.isLongAddress url.host = true) :
    url.writeHost = '[' :: url.host ++ [']'] :=
  if_pos (List.contains_iff_mem.mpr (colon_mem_of_isLongAddress long))

/-- What a host becomes, and from what. -/
theorem encodeHost_cases {host encoded : List Char} (success : encodeHost host = .ok encoded) :
    (∀ character ∈ encoded, isHostSafe character = true) ∨
      (host = '[' :: encoded ++ [']'] ∧ Host.isLongAddress encoded = true) := by
  simp only [encodeHost] at success
  split at success
  · rename_i octets
    split at success
    · obtain rfl := Except.ok.inj success
      exact .inl (isHostSafe_of_looksLikeOctets octets)
    · contradiction
  · split at success
    · rename_i bracketed
      rw [Bool.and_eq_true, beq_iff_eq, beq_iff_eq] at bracketed
      split at success
      · rename_i long
        obtain rfl := Except.ok.inj success
        exact .inr ⟨eq_of_bracketed bracketed.1 bracketed.2, long⟩
      · contradiction
    · split at success
      · obtain rfl := Except.ok.inj success
        exact .inl (isHostSafe_of_mem_percentEncode _)
      · exact .inl (Host.isHostSafe_of_asciiName (Outcome.mapError_eq_ok.mp success))

/-- A host in its own characters stays, but for its capital letters. -/
theorem map_toLower_of_encodeHost {host again : List Char}
    (safe : ∀ character ∈ host, isHostSafe character = true)
    (success : encodeHost host = .ok again) :
    again.map Char.toLower = host.map Char.toLower := by
  simp only [encodeHost] at success
  split at success
  · split at success
    · rw [Except.ok.inj success]
    · contradiction
  · split at success
    · rename_i bracketed
      rw [Bool.and_eq_true, beq_iff_eq, beq_iff_eq] at bracketed
      exact absurd (safe '[' (List.mem_of_head? bracketed.1)) (by decide)
    · split at success
      · obtain rfl := Except.ok.inj success
        have small : ∀ character ∈ host.map Char.toLower, isHostSafe character = true :=
          List.forall_mem_map.mpr fun character member => isHostSafe_toLower (safe character member)
        rw [percentEncode_eq_self small, List.map_map]
        exact List.map_congr_left fun character _ => toLower_toLower character
      · rename_i foreign
        exact absurd (List.all_eq_true.mpr fun character member =>
          decide_eq_true (ascii_of_isHostSafe (safe character member))) foreign

/-- A long address in brackets stays. -/
theorem eq_of_encodeHost_bracketed {host again : List Char} (long : Host.isLongAddress host = true)
    (success : encodeHost ('[' :: host ++ [']']) = .ok again) : again = host := by
  have numbers : Host.looksLikeOctets ('[' :: host ++ [']']) = false := by
    rw [← Bool.not_eq_true]
    intro octets
    exact absurd (isHostSafe_of_looksLikeOctets octets '[' List.mem_cons_self) (by decide)
  have bracketed : (('[' :: host ++ [']']).head? == some '[' &&
      ('[' :: host ++ [']']).getLast? == some ']') = true := by
    rw [List.getLast?_concat]
    rfl
  have inner : (('[' :: host ++ [']']).drop 1).dropLast = host := List.dropLast_concat
  simp only [encodeHost, numbers, bracketed, inner, long, Bool.false_eq_true, if_false, if_true]
    at success
  exact (Except.ok.inj success).symm

theorem at_not_mem_host_splitAuthority (authority : List Char) :
    '@' ∉ (splitAuthority authority).2.1 := by
  have absent : '@' ∉ (authority.reverse.takeWhile (· != '@')).reverse := by
    rw [List.mem_reverse]
    intro member
    exact absurd (List.mem_takeWhile_imp member) (by decide)
  intro member
  refine absent ?_
  simp only [splitAuthority] at member
  split at member
  · rw [List.mem_reverse] at member
    exact List.mem_reverse.mp (List.dropWhile_subset _ member)
  · exact List.takeWhile_subset _ member

/-- The port number as it is written behind a host. -/
def portText : Option Int → List Char
  | none => []
  | some port => ':' :: (toString port).toList

theorem authority_eq (url : Url) : url.authority =
    (if url.user.isEmpty then [] else url.user ++ ['@']) ++
      (url.writeHost ++ portText url.port) := by
  rw [authority, List.append_assoc]
  cases url.port <;> rfl

theorem not_mem_portText {character : Char} (port : Option Int) (other : character ≠ ':')
    (plain : isNumeralCharacter character = false) : character ∉ portText port := by
  cases port with
  | none => exact List.not_mem_nil
  | some port =>
      intro member
      rcases List.mem_cons.mp member with same | numeral
      · exact other same
      · rw [isNumeralCharacter_of_mem_toString port character numeral] at plain
        contradiction

/-- The host and the port number behind a user, whom an at sign ends. -/
theorem splitAuthority_append {front behind : List Char} (absent : '@' ∉ behind)
    (ended : front = [] ∨ ∃ user, front = user ++ ['@']) :
    (splitAuthority (front ++ behind)).2 = (splitAuthority behind).2 := by
  have last : ((front ++ behind).reverse.takeWhile (· != '@')).reverse = behind := by
    rcases ended with rfl | ⟨user, rfl⟩
    · exact takeWhile_reverse_eq_self absent
    · rw [← List.append_cons]
      exact takeWhile_reverse_append_cons absent user
  simp only [splitAuthority, last, takeWhile_reverse_eq_self absent]

theorem ite_portText (port : Option Int) :
    (if (portText port).head? == some ':' then (portText port).drop 1 else portText port) =
      (portText port).drop 1 := by
  cases port <;> rfl

theorem splitAuthority_of_isHostSafe {host : List Char}
    (safe : ∀ character ∈ host, isHostSafe character = true) (port : Option Int) :
    (splitAuthority (host ++ portText port)).2 = (host, (portText port).drop 1) := by
  have absent {character : Char} (other : character ∈ ['@', ':', '[', ']']) : character ∉ host :=
    fun member => not_mem_of_isHostSafe (safe character member) other
  have whole : '@' ∉ host ++ portText port := by
    rw [List.mem_append, not_or]
    exact ⟨absent (by decide), not_mem_portText port (by decide) (by decide)⟩
  have bracketless : '[' ∉ host ++ portText port := by
    rw [List.mem_append, not_or]
    exact ⟨absent (by decide), not_mem_portText port (by decide) (by decide)⟩
  have unbracketed : ((host ++ portText port).head? == some '[') = false := by
    rw [beq_eq_false_iff_ne]
    exact fun first => bracketless (List.mem_of_head? first)
  have front : (host ++ portText port).takeWhile (· != ':') = host := by
    rw [takeWhile_append_of_not_mem (absent (by decide))]
    cases port <;> simp [portText]
  simp only [splitAuthority, takeWhile_reverse_eq_self whole, unbracketed, Bool.false_and,
    Bool.false_eq_true, if_false, front, List.drop_left, ite_portText]

theorem splitAuthority_bracketed {host : List Char} (absent : '@' ∉ host) (port : Option Int) :
    (splitAuthority ('[' :: host ++ ']' :: portText port)).2 =
      ('[' :: host ++ [']'], (portText port).drop 1) := by
  have whole : '@' ∉ '[' :: host ++ ']' :: portText port := by
    simp [absent, not_mem_portText port (show '@' ≠ ':' by decide) (by decide)]
  have front : (('[' :: host ++ ']' :: portText port).reverse.dropWhile (· != ']')).reverse =
      '[' :: host ++ [']'] :=
    dropWhile_reverse_append_cons (not_mem_portText port (by decide) (by decide)) ('[' :: host)
  have bracketed : (('[' :: host ++ ']' :: portText port).head? == some '[' &&
      !('[' :: host ++ [']']).isEmpty) = true := rfl
  have behind : ('[' :: host ++ ']' :: portText port).drop ('[' :: host ++ [']']).length =
      portText port := by
    rw [show '[' :: host ++ ']' :: portText port = ('[' :: host ++ [']']) ++ portText port from
      List.append_cons .., List.drop_left]
  simp only [splitAuthority, takeWhile_reverse_eq_self whole, front, bracketed, if_true, behind,
    ite_portText]

theorem usualPort?_of_any {scheme : List Char} {number : Int}
    (usual : (usualPorts.any fun usual => usual.1.toList == scheme && usual.2 == number) = true) :
    usualPort? scheme = some number := by
  have each : ∀ usual ∈ usualPorts, usualPort? usual.1.toList = some usual.2 := by decide
  obtain ⟨usual, listed, same⟩ := List.any_eq_true.mp usual
  rw [Bool.and_eq_true, beq_iff_eq, beq_iff_eq] at same
  rw [← same.1, each usual listed, same.2]

/-- A port number that is read as it is written stays, unless the scheme implies it. -/
theorem portOf_drop_portText {scheme : List Char} {port again : Option Int}
    (success : portOf scheme ((portText port).drop 1) = .ok again) :
    (again <|> usualPort? scheme) = (port <|> usualPort? scheme) := by
  cases port with
  | none =>
      obtain rfl := Except.ok.inj success
      rfl
  | some port =>
      have written : (portText (some port)).drop 1 = (toString port).toList := rfl
      have filled : ¬(toString port).toList.isEmpty = true := by
        rw [List.isEmpty_iff]
        exact toList_toString_ne_nil port
      rw [portOf, written, if_neg filled] at success
      split at success
      · contradiction
      · rename_i number read
        obtain rfl : number = port := eq_of_integer?_toString read
        split at success
        · rename_i usual
          obtain rfl := Except.ok.inj success
          exact usualPort?_of_any usual
        · obtain rfl := Except.ok.inj success
          rfl

/-- A scheme in small letters, and a host. -/
structure IsCanonical (url : Url) : Prop where
  scheme : url.scheme.map Char.toLower = url.scheme
  host : IsHost url.host

/-- What the parts of an address become. -/
theorem fields_of_ofParts {parts : Parts} {url : Url} (success : ofParts parts = .ok url) :
    encodeHost (splitAuthority parts.authority).2.1 = .ok url.host ∧
      portOf parts.scheme (splitAuthority parts.authority).2.2 = .ok url.port ∧
      url.scheme = parts.scheme.map Char.toLower ∧
      url.path = percentEncode isPathSafe
        (if !url.scheme.isEmpty || (!url.user.isEmpty || !url.host.isEmpty || url.port.isSome) then
          normalizePath parts.path
        else parts.path) ∧
      url.query = parts.query.map (percentEncode isQuerySafe) := by
  simp only [ofParts] at success
  split at success
  · contradiction
  · obtain ⟨host, encoded, success⟩ := Outcome.bind_eq_ok.mp success
    obtain ⟨port, read, success⟩ := Outcome.bind_eq_ok.mp success
    split at success
    · obtain rfl := Except.ok.inj success
      exact ⟨encoded, read, rfl, rfl, rfl⟩
    · contradiction

theorem isCanonical_of_ofParts {parts : Parts} {url : Url} (success : ofParts parts = .ok url) :
    url.IsCanonical := by
  obtain ⟨encoded, -, scheme, -⟩ := fields_of_ofParts success
  refine ⟨?_, ?_⟩
  · rw [scheme, List.map_map]
    exact List.map_congr_left fun character _ => toLower_toLower character
  · rcases encodeHost_cases encoded with safe | ⟨bracketed, long⟩
    · exact .inl safe
    · refine .inr ⟨long, fun member => at_not_mem_host_splitAuthority parts.authority ?_⟩
      rw [bracketed]
      exact List.mem_append_left _ (List.mem_cons_of_mem _ member)

theorem ofParts_split_of_ofText {text : String} {url : Url} (success : ofText text = .ok url) :
    ofParts (split text.toList) = .ok url := by
  simp only [ofText] at success
  split at success
  · contradiction
  · exact success

theorem isCanonical_of_ofText {text : String} {url : Url} (success : ofText text = .ok url) :
    url.IsCanonical :=
  isCanonical_of_ofParts (ofParts_split_of_ofText success)

/-- The host and the port number of an address in canonical form are found in what is written of
it. -/
theorem splitAuthority_authority {url : Url} (canonical : url.IsCanonical) :
    (splitAuthority url.authority).2 = (url.writeHost, (portText url.port).drop 1) := by
  have ended : (if url.user.isEmpty then [] else url.user ++ ['@']) = [] ∨
      ∃ user, (if url.user.isEmpty then [] else url.user ++ ['@']) = user ++ ['@'] := by
    split
    · exact .inl rfl
    · exact .inr ⟨url.user, rfl⟩
  have ported : '@' ∉ portText url.port := not_mem_portText url.port (by decide) (by decide)
  rw [authority_eq]
  rcases canonical.host with safe | ⟨long, absent⟩
  · have absent : '@' ∉ url.host ++ portText url.port := by
      rw [List.mem_append, not_or]
      exact ⟨fun member => not_mem_of_isHostSafe (safe '@' member) (by decide), ported⟩
    rw [writeHost_of_isHostSafe safe, splitAuthority_append absent ended,
      splitAuthority_of_isHostSafe safe]
  · have behind : '@' ∉ '[' :: url.host ++ ']' :: portText url.port := by
      simp [absent, ported]
    rw [writeHost_of_isLongAddress long, List.append_assoc, List.singleton_append,
      splitAuthority_append behind ended, splitAuthority_bracketed absent]

/-- An address that is read again with another path and query leads to the same server. -/
theorem sameServer_of_ofParts {url again : Url} {path : List Char} {query : Option (List Char)}
    (canonical : url.IsCanonical)
    (success : ofParts { url.parts with path, query } = .ok again) : SameServer again url := by
  obtain ⟨encoded, read, scheme, -⟩ := fields_of_ofParts success
  have small : again.scheme = url.scheme := scheme.trans canonical.scheme
  simp only [parts, splitAuthority_authority canonical] at encoded read
  refine ⟨small, ?_, ?_⟩
  · rcases canonical.host with safe | ⟨long, absent⟩
    · rw [writeHost_of_isHostSafe safe] at encoded
      exact map_toLower_of_encodeHost safe encoded
    · rw [writeHost_of_isLongAddress long] at encoded
      rw [eq_of_encodeHost_bracketed long encoded]
  · rw [portNumber?, portNumber?, small]
    exact portOf_drop_portText read

end Url

end ApiCompiler.Wire
