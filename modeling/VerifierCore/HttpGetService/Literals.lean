import VerifierCore.Foundations.Numerals
import VerifierCore.HttpGetService.UrlPolicy

/-!
# Address literals

The texts of addresses as the URL parser serialises them, and what the policy reads in
them: four decimal octets, or eight hexadecimal groups with a run of zeros left out.

Main results:

- Theorem {lit}`ipv4ToInt_dottedIpv4`: a dotted literal is read as its address.
- Theorem {lit}`expandIpv6_text`: the groups of an address are recovered from its text.
- Theorem {lit}`ipv6Text_serializeIpv6`: the serialisation of an address is one of its
  texts.
-/

namespace VerifierCore

open Foundations

/-! ## Digits the policy reads -/

/-- The numerals below ten are digits. -/
theorem isDigit_digitChar {digit : Nat} (h : digit < 10) : isDigit (Nat.digitChar digit) = true := by
  revert digit
  decide

/-- A digit has the value it is written for. -/
theorem toNat_digitChar {digit : Nat} (h : digit < 10) :
    (Nat.digitChar digit).toNat - '0'.toNat = digit := by
  revert digit
  decide

/-- The character of a hexadecimal digit reads as that digit. -/
theorem hexDigit?_digitChar {digit : Nat} (h : digit < 16) :
    hexDigit? (Nat.digitChar digit) = some digit := by
  revert digit
  decide

/-- The characters of hexadecimal numerals are no letters of other words, no separators,
and in lower case. -/
theorem digitChar_plain {digit : Nat} (h : digit < 16) :
    (Nat.digitChar digit).toLower = Nat.digitChar digit ∧ Nat.digitChar digit ≠ '.' ∧
      Nat.digitChar digit ≠ ':' ∧ Nat.digitChar digit ≠ 'l' := by
  revert digit
  decide

/-- A numeral has no capital letters and none of the characters that separate. -/
theorem plain_of_mem_numeral {base n : Nat} {c : Char} (hbase : 1 < base) (hsmall : base ≤ 16)
    (h : c ∈ numeral base n) : c.toLower = c ∧ c ≠ '.' ∧ c ≠ ':' ∧ c ≠ 'l' := by
  rcases exists_digit_of_mem_numeral hbase h with ⟨digit, hdigit, rfl⟩
  exact digitChar_plain (by omega)

/-- A decimal numeral is read back. -/
theorem digitsValue_numeral (n : Nat) : digitsValue (numeral 10 n) = n := by
  have hmap : (numeral 10 n).map (fun c => c.toNat - '0'.toNat) = (positional 10 n).map id :=
    map_numeral (by decide) fun digit => toNat_digitChar
  rw [List.map_id] at hmap
  have hvalue := foldl_positional 10 n
  rw [← hmap, List.foldl_map] at hvalue
  exact hvalue

/-- A hexadecimal numeral is read back. -/
theorem parseHex_numeral (n : Nat) : parseHex (numeral 16 n) = some n := by
  have hread : (numeral 16 n).map hexDigit? = (positional 16 n).map some :=
    map_numeral (by decide) fun digit => hexDigit?_digitChar
  have hall : (numeral 16 n).takeWhile (fun c => (hexDigit? c).isSome) = numeral 16 n := by
    rw [List.takeWhile_eq_self_iff]
    intro c hc
    rcases exists_digit_of_mem_numeral (by decide) hc with ⟨digit, hdigit, rfl⟩
    rw [hexDigit?_digitChar hdigit]
    rfl
  have hdigits : (numeral 16 n).filterMap hexDigit? = positional 16 n := by
    have hid : (numeral 16 n).filterMap hexDigit? = ((numeral 16 n).map hexDigit?).filterMap id := by
      rw [List.filterMap_map]
      rfl
    rw [hid, hread, List.filterMap_map]
    exact List.filterMap_some
  unfold parseHex
  rw [hall]
  cases hnumeral : numeral 16 n with
  | nil => exact absurd hnumeral (numeral_ne_nil 16 n)
  | cons c rest =>
      dsimp only
      rw [← hnumeral, hdigits, foldl_positional]

/-! ## IPv4 -/

/-- An IPv4 address. -/
abbrev Ipv4Address : Type :=
  BitVec 32

/-- The octets of an address. -/
def ipv4Octets (address : Ipv4Address) : List Nat :=
  [address.toNat / 2 ^ 24, address.toNat / 2 ^ 16 % 2 ^ 8, address.toNat / 2 ^ 8 % 2 ^ 8,
    address.toNat % 2 ^ 8]

/-- The dotted literal of an address, as the URL parser serialises it. -/
def dottedIpv4 (address : Ipv4Address) : String :=
  String.ofList (['.'].intercalate ((ipv4Octets address).map (numeral 10)))

/-- The octets of an address are bytes. -/
theorem lt_of_mem_ipv4Octets {address : Ipv4Address} {octet : Nat}
    (h : octet ∈ ipv4Octets address) : octet < 2 ^ 8 := by
  have hbound := address.isLt
  simp only [ipv4Octets, List.mem_cons, List.not_mem_nil, or_false] at h
  omega

/-- The dotted text falls apart into the numerals of its octets. -/
theorem splitChars_dottedIpv4 (address : Ipv4Address) :
    splitChars '.' (dottedIpv4 address).toList = (ipv4Octets address).map (numeral 10) := by
  rw [dottedIpv4, String.toList_ofList]
  apply splitChars_intercalate
  · simp [ipv4Octets]
  · intro piece hpiece hmem
    rcases List.mem_map.mp hpiece with ⟨octet, _, rfl⟩
    exact (plain_of_mem_numeral (by decide) (by decide) hmem).2.1 rfl

/-- The dotted text of an address is a literal. -/
theorem isIpv4Literal_dottedIpv4 (address : Ipv4Address) :
    isIpv4Literal (dottedIpv4 address) = true := by
  unfold isIpv4Literal
  rw [splitChars_dottedIpv4, Bool.and_eq_true]
  refine ⟨by simp [ipv4Octets], ?_⟩
  rw [List.all_eq_true]
  intro piece hpiece
  rcases List.mem_map.mp hpiece with ⟨octet, hoctet, rfl⟩
  have hlength : (numeral 10 octet).length ≤ 3 := by
    have hbound := lt_of_mem_ipv4Octets hoctet
    exact length_numeral_le (by decide) (by decide) (by omega)
  have hpositive : 1 ≤ (numeral 10 octet).length :=
    List.length_pos_iff.mpr (numeral_ne_nil 10 octet)
  have hdigits : (numeral 10 octet).all isDigit = true := by
    rw [List.all_eq_true]
    intro c hc
    rcases exists_digit_of_mem_numeral (by decide) hc with ⟨digit, hdigit, rfl⟩
    exact isDigit_digitChar hdigit
  simp [hlength, hpositive, hdigits]

/-- A dotted literal is read as its address. -/
theorem ipv4ToInt_dottedIpv4 (address : Ipv4Address) :
    ipv4ToInt (dottedIpv4 address) = address.toNat := by
  have hbound := address.isLt
  rw [ipv4ToInt, splitChars_dottedIpv4, List.foldl_map]
  simp only [ipv4Octets, List.foldl_cons, List.foldl_nil, digitsValue_numeral]
  omega

/-! ## IPv6 -/

/-- An IPv6 address. -/
abbrev Ipv6Address : Type :=
  BitVec 128

/-- The eight groups of an address. -/
def ipv6Groups (address : Ipv6Address) : List Nat :=
  (List.range 8).map fun i => address.toNat / 2 ^ (16 * (7 - i)) % 2 ^ 16

/-- The groups in hexadecimal, separated by colons. -/
def colonText (groups : List Nat) : List Char :=
  [':'].intercalate (groups.map (numeral 16))

/-- One group is its numeral. -/
theorem colonText_singleton (group : Nat) : colonText [group] = numeral 16 group :=
  List.intercalate_singleton

/-- More groups stand behind colons. -/
theorem colonText_cons_cons (group next : Nat) (groups : List Nat) :
    colonText (group :: next :: groups) = numeral 16 group ++ ':' :: colonText (next :: groups) := by
  simp [colonText]

/-- The texts of eight groups: all of them, or with a run of zero groups left out
between two colons. -/
inductive Ipv6Text (groups : List Nat) : List Char → Prop where
  | full : Ipv6Text groups (colonText groups)
  | compressed (front back : List Nat) (count : Nat) :
      0 < count → groups = front ++ List.replicate count 0 ++ back →
      Ipv6Text groups (colonText front ++ ':' :: ':' :: colonText back)

/-- How many groups from the index on are zero. -/
def zeroRun (groups : List Nat) (i : Nat) : Nat :=
  ((groups.drop i).takeWhile fun group => group = 0).length

/-- The index of the first longest run of two or more zero groups. -/
def compressedPieceIndex (groups : List Nat) : Option Nat :=
  let longest := ((List.range groups.length).map (zeroRun groups)).foldl max 0
  if longest ≤ 1 then none else (List.range groups.length).find? fun i => zeroRun groups i = longest

/-- The serialisation of the URL parser: its longest run of zero groups is left out. -/
def serializeIpv6 (groups : List Nat) : List Char :=
  match compressedPieceIndex groups with
  | none => colonText groups
  | some i => colonText (groups.take i) ++ ':' :: ':' ::
      colonText (groups.drop (i + zeroRun groups i))

example : String.ofList (serializeIpv6 [0x2001, 0xdb8, 0, 0, 1, 0, 0, 1]) = "2001:db8::1:0:0:1" := by
  decide +kernel

/-- The serialization of an address is one of its texts. -/
theorem ipv6Text_serializeIpv6 (groups : List Nat) : Ipv6Text groups (serializeIpv6 groups) := by
  unfold serializeIpv6
  cases hindex : compressedPieceIndex groups with
  | none => exact .full
  | some i =>
      have hrun : 0 < zeroRun groups i := by
        unfold compressedPieceIndex at hindex
        dsimp only at hindex
        split_ifs at hindex with hshort
        have hfound := List.find?_some hindex
        rw [decide_eq_true_eq] at hfound
        omega
      refine .compressed (groups.take i) _ (zeroRun groups i) hrun ?_
      have hzeros : (groups.drop i).takeWhile (fun group => group = 0) =
          List.replicate (zeroRun groups i) 0 := by
        rw [List.eq_replicate_iff]
        refine ⟨rfl, ?_⟩
        intro group hgroup
        simpa using List.mem_takeWhile_imp hgroup
      have hsplit := List.takeWhile_append_dropWhile (l := groups.drop i)
        (p := fun group => decide (group = 0))
      have hback : (groups.drop i).drop (zeroRun groups i) =
          (groups.drop i).dropWhile fun group => group = 0 := by
        rw [zeroRun]
        nth_rewrite 2 [← hsplit]
        exact List.drop_left
      rw [List.append_assoc, ← hzeros, ← List.drop_drop, hback, hsplit, List.take_append_drop]

/-! ### The halves of a text -/

/-- A character that is not the first of two colons joins the first piece. -/
theorem splitDoubleColon_cons {c : Char} {rest first : List Char} {pieces : List (List Char)}
    (hc : c ≠ ':' ∨ rest.head? ≠ some ':') (h : splitDoubleColon rest = first :: pieces) :
    splitDoubleColon (c :: rest) = (c :: first) :: pieces := by
  unfold splitDoubleColon
  split
  · rename_i heq
    cases heq
  · rename_i heq
    cases heq
    simp at hc
  · rename_i heq
    cases heq
    rw [h]

/-- What has no colon belongs to the first piece. -/
theorem splitDoubleColon_append_of_notMem {piece rest first : List Char}
    {pieces : List (List Char)} (hpiece : ':' ∉ piece)
    (h : splitDoubleColon rest = first :: pieces) :
    splitDoubleColon (piece ++ rest) = (piece ++ first) :: pieces := by
  induction piece with
  | nil => exact h
  | cons c piece ih =>
      rw [List.mem_cons, not_or] at hpiece
      exact splitDoubleColon_cons (.inl (Ne.symm hpiece.1)) (ih hpiece.2)

/-- A numeral has no colon. -/
theorem colon_notMem_numeral (n : Nat) : ':' ∉ numeral 16 n := by
  intro h
  exact (plain_of_mem_numeral (by decide) (by decide) h).2.2.1 rfl

/-- Groups with single colons between them join the first piece. -/
theorem splitDoubleColon_colonText_append (groups : List Nat) {rest first : List Char}
    {pieces : List (List Char)} (h : splitDoubleColon rest = first :: pieces) :
    splitDoubleColon (colonText groups ++ rest) = (colonText groups ++ first) :: pieces := by
  induction groups with
  | nil => exact h
  | cons group groups ih =>
      cases groups with
      | nil =>
          rw [colonText_singleton]
          exact splitDoubleColon_append_of_notMem (colon_notMem_numeral group) h
      | cons next groups =>
          -- The group behind a colon starts with a digit.
          have hdigit : (colonText (next :: groups) ++ rest).head? ≠ some ':' := by
            intro hhead
            have hstart : ∃ c text, numeral 16 next = c :: text :=
              List.exists_cons_of_ne_nil (numeral_ne_nil 16 next)
            rcases hstart with ⟨c, text, hnumeral⟩
            have hc : c = ':' := by
              cases groups <;> simpa [colonText, hnumeral] using hhead
            exact colon_notMem_numeral next (by rw [hnumeral, hc]; exact List.mem_cons_self)
          rw [colonText_cons_cons, List.append_assoc, List.cons_append, List.append_assoc, List.cons_append]
          exact splitDoubleColon_append_of_notMem (colon_notMem_numeral group)
            (splitDoubleColon_cons (.inr hdigit) ih)

/-- The text falls apart into the numerals of its groups. -/
theorem colonGroups_colonText (groups : List Nat) :
    colonGroups (colonText groups) = groups.map (numeral 16) := by
  unfold colonGroups
  cases groups with
  | nil => rfl
  | cons group groups =>
      have hne : colonText (group :: groups) ≠ [] := by
        cases groups with
        | nil =>
            rw [colonText_singleton]
            exact numeral_ne_nil 16 group
        | cons next groups => simp [colonText_cons_cons]
      rw [if_neg hne, colonText]
      apply splitChars_intercalate
      · simp
      · intro piece hpiece
        rcases List.mem_map.mp hpiece with ⟨n, _, rfl⟩
        exact colon_notMem_numeral n

/-- The groups are recovered from any of their texts. -/
theorem expandIpv6_text {groups : List Nat} {text : List Char} (hlength : groups.length = 8)
    (h : Ipv6Text groups text) : expandIpv6 text = some (groups.map some) := by
  have hparse (part : List Nat) : (part.map (numeral 16)).map parseHex = part.map some := by
    rw [List.map_map]
    apply List.map_congr_left
    intro n _
    exact parseHex_numeral n
  unfold expandIpv6
  cases h with
  | full =>
      have hsplit : splitDoubleColon (colonText groups) = [colonText groups] := by
        have hnil : splitDoubleColon [] = [[]] := rfl
        simpa using splitDoubleColon_colonText_append groups hnil
      have hnone : colonGroups [] = [] := rfl
      simp [hsplit, colonGroups_colonText, hnone, hlength, hparse]
  | compressed front back count _ hgroups =>
      have hback : splitDoubleColon (colonText back) = [colonText back] := by
        have hnil : splitDoubleColon [] = [[]] := rfl
        simpa using splitDoubleColon_colonText_append back hnil
      have hsplit : splitDoubleColon (colonText front ++ ':' :: ':' :: colonText back) =
          [colonText front, colonText back] := by
        have hcolons : splitDoubleColon (':' :: ':' :: colonText back) = [[], colonText back] := by
          rw [splitDoubleColon, hback]
        simpa using splitDoubleColon_colonText_append front hcolons
      rw [hgroups] at hlength
      simp only [List.length_append, List.length_replicate] at hlength
      have hcount : 8 - front.length - back.length = count := by omega
      have hfits : ¬8 < front.length + back.length := by omega
      have hzero : parseHex ['0'] = some 0 := by decide
      simp only [hsplit, List.headD_cons, List.tail_cons, colonGroups_colonText,
        List.length_map, hfits, if_false, hcount, List.map_append, hparse, hgroups,
        List.map_replicate, hzero]

/-! ## Hosts -/

/-- The policy refuses the URL. -/
def Refuses (parser : UrlParser) (url : String) : Prop :=
  ∃ reason, checkUrl parser url false = .ok (.refused reason)

/-- A host in lower case that ends in no dot and has no `l` is judged as it is. -/
theorem checkUrl_of_plain_host {parser : UrlParser} {url host : String}
    (hparse : parser.parse url = some { protocol := "https:", hostname := host })
    (hlower : ∀ c ∈ host.toList, c.toLower = c) (hlast : host.toList.getLast? ≠ some '.')
    (hplain : 'l' ∉ host.toList) :
    checkUrl parser url false =
      if isIpv4Literal host then .ok (checkIpv4 (ipv4ToInt host))
      else if startsWith host "[" then checkIpv6 (host.toList.tail.dropLast)
      else .ok .allowed := by
  have hsame : dropFinalDot (lowerAscii host) = host := by
    have hmap : host.toList.map Char.toLower = host.toList := by
      rw [List.map_congr_left hlower, List.map_id'']
      intro c
      rfl
    have hid : lowerAscii host = host := by
      rw [lowerAscii, hmap, String.ofList_toList]
    rw [hid, dropFinalDot, if_neg hlast]
  have hname : ¬(host = "localhost" ∨ endsWith host ".localhost" = true) := by
    rintro (heq | hend)
    · exact hplain (by rw [heq]; decide)
    · have hsuffix : ".localhost".toList <:+ host.toList := List.isSuffixOf_iff_suffix.mp hend
      exact hplain (hsuffix.subset (by decide))
  unfold checkUrl
  simp only [hparse, Bool.false_eq_true, if_false, ne_eq, not_true_eq_false, hsame, hname]

/-- A dotted host is judged as its address. -/
theorem checkUrl_dottedIpv4 {parser : UrlParser} {url : String} {address : Ipv4Address}
    (hparse : parser.parse url = some { protocol := "https:", hostname := dottedIpv4 address }) :
    checkUrl parser url false = .ok (checkIpv4 address.toNat) := by
  have hchars : ∀ c ∈ (dottedIpv4 address).toList, c.toLower = c ∧ c ≠ 'l' := by
    intro c hc
    rw [dottedIpv4, String.toList_ofList] at hc
    rcases eq_or_mem_of_mem_intercalate hc with rfl | ⟨piece, hpiece, hmem⟩
    · decide
    · rcases List.mem_map.mp hpiece with ⟨octet, _, rfl⟩
      have hplain := plain_of_mem_numeral (by decide) (by decide) hmem
      exact ⟨hplain.1, hplain.2.2.2⟩
  have hlast : (dottedIpv4 address).toList.getLast? ≠ some '.' := by
    rw [dottedIpv4, String.toList_ofList]
    apply getLast?_intercalate_ne
    intro piece hpiece
    rcases List.mem_map.mp hpiece with ⟨octet, _, rfl⟩
    exact ⟨numeral_ne_nil 10 octet,
      fun hdot => (plain_of_mem_numeral (by decide) (by decide) hdot).2.1 rfl⟩
  rw [checkUrl_of_plain_host hparse (fun c hc => (hchars c hc).1) hlast
    fun hl => (hchars 'l' hl).2 rfl, if_pos (isIpv4Literal_dottedIpv4 address),
    ipv4ToInt_dottedIpv4]

/-- The texts of an address have no capital letters and no dots. -/
theorem mem_text {groups : List Nat} {text : List Char} (h : Ipv6Text groups text) :
    ∀ c ∈ text, c.toLower = c ∧ c ≠ '.' ∧ c ≠ 'l' := by
  have hcolonText (part : List Nat) : ∀ c ∈ colonText part, c.toLower = c ∧ c ≠ '.' ∧ c ≠ 'l' := by
    intro c hc
    rcases eq_or_mem_of_mem_intercalate hc with rfl | ⟨piece, hpiece, hmem⟩
    · decide
    · rcases List.mem_map.mp hpiece with ⟨group, _, rfl⟩
      have hplain := plain_of_mem_numeral (by decide) (by decide) hmem
      exact ⟨hplain.1, hplain.2.1, hplain.2.2.2⟩
  intro c hc
  cases h with
  | full => exact hcolonText _ c hc
  | compressed front back =>
      rw [List.mem_append, List.mem_cons, List.mem_cons] at hc
      rcases hc with hfront | rfl | rfl | hback
      · exact hcolonText _ c hfront
      · decide
      · decide
      · exact hcolonText _ c hback

/-- The host of an address of groups. -/
def bracketed (text : List Char) : String :=
  String.ofList ('[' :: text ++ [']'])

/-- A bracketed host is judged by the groups of its text. -/
theorem checkUrl_bracketed {parser : UrlParser} {url : String} {groups : List Nat}
    {text : List Char} (hlength : groups.length = 8) (htext : Ipv6Text groups text)
    (hparse : parser.parse url = some { protocol := "https:", hostname := bracketed text }) :
    checkUrl parser url false = .ok (checkIpv6Groups (groups.map some)) := by
  have hlist : (bracketed text).toList = '[' :: text ++ [']'] := String.toList_ofList
  have hchars : ∀ c ∈ (bracketed text).toList, c.toLower = c ∧ c ≠ '.' ∧ c ≠ 'l' := by
    intro c hc
    rw [hlist, List.mem_append, List.mem_cons, List.mem_singleton] at hc
    rcases hc with (rfl | hmem) | rfl
    · decide
    · exact mem_text htext c hmem
    · decide
  have hlast : (bracketed text).toList.getLast? ≠ some '.' := by
    rw [hlist, List.getLast?_concat]
    simp
  have hnoDot : '.' ∉ (bracketed text).toList := fun hdot => (hchars '.' hdot).2.1 rfl
  have hnotIpv4 : isIpv4Literal (bracketed text) = false := by
    simp [isIpv4Literal, splitChars_of_notMem hnoDot]
  have hstart : startsWith (bracketed text) "[" = true := by
    simp [startsWith, hlist]
  have hinner : (bracketed text).toList.tail.dropLast = text := by
    simp [hlist]
  rw [checkUrl_of_plain_host hparse (fun c hc => (hchars c hc).1) hlast
    fun hl => (hchars 'l' hl).2.2 rfl, hnotIpv4, hstart, hinner, checkIpv6,
    expandIpv6_text hlength htext]
  rfl

end VerifierCore
