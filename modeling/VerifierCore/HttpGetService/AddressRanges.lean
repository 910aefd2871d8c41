import VerifierCore.Foundations.Prefixes
import VerifierCore.HttpGetService.Literals

/-!
# The refused address ranges

The ranges of addresses the policy refuses, as intervals of numbers.  The masks and group
comparisons of the policy are shown to decide membership in them, over all addresses.

Main results:

- Theorem {lit}`checkIpv4_refused_iff`: the masks decide the eleven IPv4 blocks.
- Theorem {lit}`checkIpv6Groups_refused_iff`: the group tests, in their order, decide the
  IPv6 blocks and the blocks that embed an IPv4 address.
- Theorem {lit}`addressLiterals_judged`: what the policy says of every address literal.
-/

namespace VerifierCore

open Foundations

/-! ## IPv4 -/

/-- The refused blocks, as intervals of integers. -/
def ipv4Blocks : List (Block 32) :=
  [{ network := 0x00000000, length := 8 },
    { network := 0x7f000000, length := 8 },
    { network := 0x0a000000, length := 8 },
    { network := 0xac100000, length := 12 },
    { network := 0xc0a80000, length := 16 },
    { network := 0x64400000, length := 10 },
    { network := 0xa83f8110, length := 32 },
    { network := 0xc0000000, length := 24 },
    { network := 0xa9fe0000, length := 16 },
    { network := 0xe0000000, length := 4 },
    { network := 0xf0000000, length := 4 }]

/-- The policy's table lists the blocks. -/
theorem ipv4Blocked_eq :
    ipv4Blocked.map (fun range => (range.1, range.2.1)) =
      ipv4Blocks.map fun block => (block.network, block.mask) := by
  decide +kernel

/-- An IPv4 address is refused exactly if it is in one of the blocks. -/
theorem checkIpv4_refused_iff {address : Nat} (h : address < 2 ^ 32) :
    (∃ reason, checkIpv4 address = .refused reason) ↔
      ∃ block ∈ ipv4Blocks, block.Contains address := by
  have hfound : (∃ reason, checkIpv4 address = .refused reason) ↔
      ∃ range ∈ ipv4Blocked, address &&& range.2.1 = range.1 := by
    unfold checkIpv4
    split
    · rename_i range hrange
      have hmem := List.mem_of_find?_eq_some hrange
      have hmatch := List.find?_some hrange
      exact iff_of_true ⟨_, rfl⟩ ⟨range, hmem, by simpa using hmatch⟩
    · rename_i hnone
      rw [List.find?_eq_none] at hnone
      refine iff_of_false (by simp) ?_
      rintro ⟨range, hmem, hmatch⟩
      exact hnone range hmem (by simpa using hmatch)
  have hlisted : (∃ range ∈ ipv4Blocked, address &&& range.2.1 = range.1) ↔
      ∃ pair ∈ ipv4Blocked.map (fun range => (range.1, range.2.1)), address &&& pair.2 = pair.1 := by
    simp only [List.mem_map, exists_exists_and_eq_and]
  rw [hfound, hlisted, ipv4Blocked_eq]
  simp only [List.mem_map, exists_exists_and_eq_and, Block.and_mask_eq_iff _ h]

/-! ## IPv6 -/

namespace Ipv6Block

/-- `::` -/
def unspecified : Block 128 :=
  { network := 0, length := 128 }

/-- `::1` -/
def loopback : Block 128 :=
  { network := 1, length := 128 }

/-- `fc00::/7` -/
def uniqueLocal : Block 128 :=
  { network := 0xfc00 * 2 ^ 112, length := 7 }

/-- `fec0::/10` -/
def siteLocal : Block 128 :=
  { network := 0xfec0 * 2 ^ 112, length := 10 }

/-- `fe80::/10` -/
def linkLocal : Block 128 :=
  { network := 0xfe80 * 2 ^ 112, length := 10 }

/-- `ff00::/8` -/
def multicast : Block 128 :=
  { network := 0xff00 * 2 ^ 112, length := 8 }

/-- `64:ff9b:1::/48` -/
def localNat64 : Block 128 :=
  { network := 0x0064ff9b0001 * 2 ^ 80, length := 48 }

/-- `::ffff:0:0/96` -/
def mapped : Block 128 :=
  { network := 0xffff * 2 ^ 32, length := 96 }

/-- `::/96` -/
def compatible : Block 128 :=
  { network := 0, length := 96 }

/-- `64:ff9b::/96` -/
def nat64 : Block 128 :=
  { network := 0x0064ff9b * 2 ^ 96, length := 96 }

/-- `2002::/16` -/
def sixToFour : Block 128 :=
  { network := 0x2002 * 2 ^ 112, length := 16 }

end Ipv6Block

/-- The blocks refused as they are. -/
def ipv6Blocks : List (Block 128) :=
  [Ipv6Block.unspecified, Ipv6Block.loopback, Ipv6Block.uniqueLocal, Ipv6Block.siteLocal,
    Ipv6Block.linkLocal, Ipv6Block.multicast, Ipv6Block.localNat64]

/-- A block whose addresses embed an IPv4 address in front of some last bits. -/
structure Embedding where
  block : Block 128
  behind : Nat

/-- The embedded address. -/
def Embedding.extract (embedding : Embedding) (address : Ipv6Address) : Ipv4Address :=
  BitVec.ofNat 32 (address.toNat / 2 ^ embedding.behind)

/-- Most embed an address in the last bits, `2002::/16` behind its prefix. -/
def ipv4Embeddings : List Embedding :=
  [{ block := Ipv6Block.mapped, behind := 0 }, { block := Ipv6Block.compatible, behind := 0 },
    { block := Ipv6Block.nat64, behind := 0 }, { block := Ipv6Block.sixToFour, behind := 80 }]

/-- The groups of an address in the order of the literal. -/
theorem map_ipv6Groups (address : Ipv6Address) :
    (ipv6Groups address).map some =
      [some (address.toNat / 2 ^ 112), some (address.toNat / 2 ^ 96 % 2 ^ 16),
        some (address.toNat / 2 ^ 80 % 2 ^ 16), some (address.toNat / 2 ^ 64 % 2 ^ 16),
        some (address.toNat / 2 ^ 48 % 2 ^ 16), some (address.toNat / 2 ^ 32 % 2 ^ 16),
        some (address.toNat / 2 ^ 16 % 2 ^ 16), some (address.toNat % 2 ^ 16)] := by
  have hbound := address.isLt
  have hfirst : address.toNat / 2 ^ 112 < 2 ^ 16 := by omega
  simpa [ipv6Groups, List.range, List.range.loop] using hfirst

/-- Two neighbouring groups, put together by shifting. -/
theorem embedded_groups (n k : Nat) :
    ((n / 2 ^ (k + 16) % 2 ^ 16) <<< 16 ||| n / 2 ^ k % 2 ^ 16) % 2 ^ 32 = n / 2 ^ k % 2 ^ 32 := by
  have hlow : n / 2 ^ k % 2 ^ 16 < 2 ^ 16 := Nat.mod_lt _ (by decide)
  rw [← Nat.shiftLeft_add_eq_or_of_lt hlow, Nat.shiftLeft_eq, pow_add, ← Nat.div_div_eq_div_mul]
  omega

/-- A mask on the first group decides a block of addresses. -/
theorem firstGroup_mask_iff (first : Block 16) {block : Block 128} (address : Ipv6Address)
    (hnetwork : block.network = first.network * 2 ^ 112) (hlength : block.length = first.length)
    (hshort : first.length ≤ 16) :
    address.toNat / 2 ^ 112 &&& first.mask = first.network ↔ block.Contains address.toNat := by
  have hbound := address.isLt
  have hfree : 2 ^ (128 - block.length) = 2 ^ (16 - first.length) * 2 ^ 112 := by
    rw [← pow_add, hlength]
    congr 1
    omega
  rw [first.and_mask_eq_iff (by omega), Block.Contains, Block.Contains, hnetwork, hfree,
    Nat.le_div_iff_mul_le (by decide), Nat.div_lt_iff_lt_mul (by decide), Nat.add_mul]

/-- Zero groups in front leave one group less, if the next one is zero as well. -/
theorem lt_two_pow_iff (n k : Nat) : n < 2 ^ k ↔ n < 2 ^ (k + 16) ∧ n / 2 ^ k % 2 ^ 16 = 0 := by
  have hpos : 0 < 2 ^ k := Nat.two_pow_pos k
  have hsplit : n < 2 ^ (k + 16) ↔ n / 2 ^ k < 2 ^ 16 := by
    rw [pow_add, Nat.mul_comm, Nat.div_lt_iff_lt_mul hpos]
  have hzero : n < 2 ^ k ↔ n / 2 ^ k = 0 := by
    rw [Nat.div_eq_zero_iff_lt hpos]
  rw [hsplit, hzero]
  generalize n / 2 ^ k = group
  omega

/-- Five zero groups in front. -/
theorem five_zero_groups_iff (n : Nat) :
    (n / 2 ^ 112 = 0 ∧ n / 2 ^ 96 % 2 ^ 16 = 0 ∧ n / 2 ^ 80 % 2 ^ 16 = 0 ∧
        n / 2 ^ 64 % 2 ^ 16 = 0 ∧ n / 2 ^ 48 % 2 ^ 16 = 0) ↔ n < 2 ^ 48 := by
  rw [lt_two_pow_iff n 48, lt_two_pow_iff n 64, lt_two_pow_iff n 80, lt_two_pow_iff n 96,
    Nat.div_eq_zero_iff_lt (by decide)]
  simp only [and_assoc]

/-- Seven zero groups in front. -/
theorem seven_zero_groups_iff (n : Nat) :
    (n / 2 ^ 112 = 0 ∧ n / 2 ^ 96 % 2 ^ 16 = 0 ∧ n / 2 ^ 80 % 2 ^ 16 = 0 ∧
        n / 2 ^ 64 % 2 ^ 16 = 0 ∧ n / 2 ^ 48 % 2 ^ 16 = 0 ∧ n / 2 ^ 32 % 2 ^ 16 = 0 ∧
        n / 2 ^ 16 % 2 ^ 16 = 0) ↔ n < 2 ^ 16 := by
  rw [lt_two_pow_iff n 16, lt_two_pow_iff n 32, ← five_zero_groups_iff]
  simp only [and_assoc]

open Ipv6Block in
/-- Eight zero groups. -/
theorem unspecified_iff (n : Nat) :
    (n / 2 ^ 112 = 0 ∧ n / 2 ^ 96 % 2 ^ 16 = 0 ∧ n / 2 ^ 80 % 2 ^ 16 = 0 ∧
        n / 2 ^ 64 % 2 ^ 16 = 0 ∧ n / 2 ^ 48 % 2 ^ 16 = 0 ∧ n / 2 ^ 32 % 2 ^ 16 = 0 ∧
        n / 2 ^ 16 % 2 ^ 16 = 0 ∧ n % 2 ^ 16 = 0) ↔
      unspecified.Contains n := by
  have height : n < 1 ↔ n < 2 ^ 16 ∧ n % 2 ^ 16 = 0 := by omega
  have hcontains : unspecified.Contains n ↔ n < 1 := by
    simp only [Block.Contains, unspecified]
    omega
  rw [hcontains, height, ← seven_zero_groups_iff]
  simp only [and_assoc]

open Ipv6Block in
/-- Seven zero groups and a one. -/
theorem loopback_iff (n : Nat) :
    ((n / 2 ^ 112 = 0 ∧ n / 2 ^ 96 % 2 ^ 16 = 0 ∧ n / 2 ^ 80 % 2 ^ 16 = 0 ∧
        n / 2 ^ 64 % 2 ^ 16 = 0 ∧ n / 2 ^ 48 % 2 ^ 16 = 0 ∧ n / 2 ^ 32 % 2 ^ 16 = 0 ∧
        n / 2 ^ 16 % 2 ^ 16 = 0) ∧ n % 2 ^ 16 = 1) ↔
      loopback.Contains n := by
  rw [seven_zero_groups_iff]
  simp only [Block.Contains, loopback]
  omega

open Ipv6Block in
/-- The group of the prefix. -/
theorem sixToFour_iff (n : Nat) : n / 2 ^ 112 = 0x2002 ↔ sixToFour.Contains n := by
  simp only [Block.Contains, sixToFour]
  omega

open Ipv6Block in
/-- The three groups of the prefix. -/
theorem localNat64_iff (n : Nat) :
    ((n / 2 ^ 112 = 0x64 ∧ n / 2 ^ 96 % 2 ^ 16 = 0xff9b) ∧ n / 2 ^ 80 % 2 ^ 16 = 1) ↔
      localNat64.Contains n := by
  simp only [Block.Contains, localNat64]
  omega

open Ipv6Block in
/-- Five zero groups and a sixth of zeros or ones. -/
theorem mapped_or_compatible_iff (n : Nat) :
    ((n / 2 ^ 112 = 0 ∧ n / 2 ^ 96 % 2 ^ 16 = 0 ∧ n / 2 ^ 80 % 2 ^ 16 = 0 ∧
        n / 2 ^ 64 % 2 ^ 16 = 0 ∧ n / 2 ^ 48 % 2 ^ 16 = 0) ∧
      (n / 2 ^ 32 % 2 ^ 16 = 0xffff ∨ n / 2 ^ 32 % 2 ^ 16 = 0)) ↔
      mapped.Contains n ∨ compatible.Contains n := by
  rw [five_zero_groups_iff]
  simp only [Block.Contains, mapped, compatible]
  omega

open Ipv6Block in
/-- The two groups of the prefix and four zero groups. -/
theorem nat64_iff {n : Nat} (h : n < 2 ^ 128) :
    ((n / 2 ^ 112 = 0x64 ∧ n / 2 ^ 96 % 2 ^ 16 = 0xff9b) ∧ n / 2 ^ 80 % 2 ^ 16 = 0 ∧
        n / 2 ^ 64 % 2 ^ 16 = 0 ∧ n / 2 ^ 48 % 2 ^ 16 = 0 ∧ n / 2 ^ 32 % 2 ^ 16 = 0) ↔
      nat64.Contains n := by
  have hfirst : (n / 2 ^ 112 = 0x64 ∧ n / 2 ^ 96 % 2 ^ 16 = 0xff9b) ↔
      n / 2 ^ 96 = 0x0064ff9b := by
    omega
  have hfour : (n / 2 ^ 80 % 2 ^ 16 = 0 ∧ n / 2 ^ 64 % 2 ^ 16 = 0 ∧ n / 2 ^ 48 % 2 ^ 16 = 0 ∧
      n / 2 ^ 32 % 2 ^ 16 = 0) ↔ n / 2 ^ 32 % 2 ^ 64 = 0 := by
    omega
  rw [hfirst, hfour]
  simp only [Block.Contains, nat64]
  omega

open Ipv6Block in
/-- The tests of the policy in their order, as blocks. -/
theorem checkIpv6Groups_eq (address : Ipv6Address) :
    checkIpv6Groups ((ipv6Groups address).map some) =
      if unspecified.Contains address.toNat then .refused "host is an unspecified address"
      else if loopback.Contains address.toNat then .refused "host is a loopback address"
      else if mapped.Contains address.toNat ∨ compatible.Contains address.toNat ∨
          nat64.Contains address.toNat then
        checkIpv4 (address.toNat % 2 ^ 32)
      else if sixToFour.Contains address.toNat then checkIpv4 (address.toNat / 2 ^ 80 % 2 ^ 32)
      else if localNat64.Contains address.toNat ∨ uniqueLocal.Contains address.toNat ∨
          siteLocal.Contains address.toNat then
        .refused "host is a private address"
      else if linkLocal.Contains address.toNat then .refused "host is a link-local address"
      else if multicast.Contains address.toNat then .refused "host is a multicast address"
      else .allowed := by
  have hbound := address.isLt
  have huniqueLocal : address.toNat / 2 ^ 112 &&& 0xfe00 = 0xfc00 ↔
      uniqueLocal.Contains address.toNat :=
    firstGroup_mask_iff { network := 0xfc00, length := 7 } address rfl rfl (by decide)
  have hsiteLocal : address.toNat / 2 ^ 112 &&& 0xffc0 = 0xfec0 ↔
      siteLocal.Contains address.toNat :=
    firstGroup_mask_iff { network := 0xfec0, length := 10 } address rfl rfl (by decide)
  have hlinkLocal : address.toNat / 2 ^ 112 &&& 0xffc0 = 0xfe80 ↔
      linkLocal.Contains address.toNat :=
    firstGroup_mask_iff { network := 0xfe80, length := 10 } address rfl rfl (by decide)
  have hmulticast : address.toNat / 2 ^ 112 &&& 0xff00 = 0xff00 ↔
      multicast.Contains address.toNat :=
    firstGroup_mask_iff { network := 0xff00, length := 8 } address rfl rfl (by decide)
  have hlast := embedded_groups address.toNat 0
  have hbehind := embedded_groups address.toNat 80
  rw [map_ipv6Groups]
  unfold checkIpv6Groups
  simp only [List.getD_cons_zero, List.getD_cons_succ, Option.getD_some, List.take_succ_cons,
    List.take_zero, List.all_cons, List.all_nil, List.drop_succ_cons, List.drop_zero,
    Option.some.injEq, Bool.and_eq_true, Bool.or_eq_true, decide_eq_true_eq, Bool.and_true]
  refine if_congr (unspecified_iff _) rfl (if_congr (loopback_iff _) rfl
    (if_congr ?_ ?_ (if_congr (sixToFour_iff _) ?_
      (if_congr ?_ rfl (if_congr hlinkLocal rfl (if_congr hmulticast rfl rfl))))))
  · rw [mapped_or_compatible_iff, nat64_iff hbound, or_assoc]
  · simpa using congrArg checkIpv4 hlast
  · exact congrArg checkIpv4 hbehind
  · rw [huniqueLocal, hsiteLocal, localNat64_iff, or_assoc]

open Ipv6Block in
/-- The blocks that embed an address in the last bits meet none that a later test is for. -/
theorem disjoint_of_last {n : Nat}
    (h : mapped.Contains n ∨ compatible.Contains n ∨ nat64.Contains n) :
    ¬sixToFour.Contains n ∧ ¬localNat64.Contains n ∧ ¬uniqueLocal.Contains n ∧
      ¬siteLocal.Contains n ∧ ¬linkLocal.Contains n ∧ ¬multicast.Contains n := by
  have hsmall : n < 0x0064ff9b * 2 ^ 96 + 2 ^ 32 := by
    simp only [Block.Contains, mapped, compatible, nat64] at h
    omega
  simp only [Block.Contains, sixToFour, localNat64, uniqueLocal, siteLocal, linkLocal, multicast]
  omega

open Ipv6Block in
/-- A 6to4 address is in none of the blocks for local use or multicast. -/
theorem disjoint_of_sixToFour {n : Nat} (h : sixToFour.Contains n) :
    ¬localNat64.Contains n ∧ ¬uniqueLocal.Contains n ∧ ¬siteLocal.Contains n ∧
      ¬linkLocal.Contains n ∧ ¬multicast.Contains n := by
  simp only [Block.Contains, sixToFour] at h
  simp only [Block.Contains, localNat64, uniqueLocal, siteLocal, linkLocal, multicast]
  omega

/-- An embedded address is read off behind its prefix. -/
theorem toNat_extract (embedding : Embedding) (address : Ipv6Address) :
    (embedding.extract address).toNat = address.toNat / 2 ^ embedding.behind % 2 ^ 32 :=
  BitVec.toNat_ofNat _ 32

open Ipv6Block in
/-- An IPv6 address is refused exactly if it is in one of the blocks, or embeds an IPv4 address
that is refused. -/
theorem checkIpv6Groups_refused_iff (address : Ipv6Address) :
    (∃ reason, checkIpv6Groups ((ipv6Groups address).map some) = .refused reason) ↔
      (∃ block ∈ ipv6Blocks, block.Contains address.toNat) ∨
        ∃ embedding ∈ ipv4Embeddings, embedding.block.Contains address.toNat ∧
          ∃ reason, checkIpv4 (embedding.extract address).toNat = .refused reason := by
  have hblocks : (∃ block ∈ ipv6Blocks, block.Contains address.toNat) ↔
      unspecified.Contains address.toNat ∨ loopback.Contains address.toNat ∨
        uniqueLocal.Contains address.toNat ∨ siteLocal.Contains address.toNat ∨
        linkLocal.Contains address.toNat ∨ multicast.Contains address.toNat ∨
        localNat64.Contains address.toNat := by
    simp [ipv6Blocks]
  have hembeddings : (∃ embedding ∈ ipv4Embeddings, embedding.block.Contains address.toNat ∧
        ∃ reason, checkIpv4 (embedding.extract address).toNat = .refused reason) ↔
      (mapped.Contains address.toNat ∨ compatible.Contains address.toNat ∨
          nat64.Contains address.toNat) ∧
        (∃ reason, checkIpv4 (address.toNat % 2 ^ 32) = .refused reason) ∨
      sixToFour.Contains address.toNat ∧
        ∃ reason, checkIpv4 (address.toNat / 2 ^ 80 % 2 ^ 32) = .refused reason := by
    simp only [ipv4Embeddings, List.exists_mem_cons_iff, List.not_mem_nil, false_and, exists_false,
      or_false, toNat_extract, pow_zero, Nat.div_one]
    rw [or_and_right, or_and_right, or_assoc, or_assoc]
  rw [checkIpv6Groups_eq, hblocks, hembeddings]
  split_ifs with hunspecified hloopback hlast hsixToFour hprivate hlinkLocal hmulticast
  · simp [hunspecified]
  · simp [hloopback]
  · have hdisjoint := disjoint_of_last hlast
    simp [hunspecified, hloopback, hlast, hdisjoint]
  · have hdisjoint := disjoint_of_sixToFour hsixToFour
    simp [hunspecified, hloopback, hlast, hsixToFour, hdisjoint]
  · rcases hprivate with hlocal | hunique | hsite
    · simp [hlocal]
    · simp [hunique]
    · simp [hsite]
  · simp [hlinkLocal]
  · simp [hmulticast]
  · rw [not_or, not_or] at hprivate
    simp [hunspecified, hloopback, hlast, hsixToFour, hprivate, hlinkLocal, hmulticast]

/-! ## Literals -/

/-- Every URL whose host is the dotted literal is refused. -/
def RefusesLiteral (address : Ipv4Address) : Prop :=
  ∀ (parser : UrlParser) (url : String),
    parser.parse url = some { protocol := "https:", hostname := dottedIpv4 address } →
      Refuses parser url

/-- A URL of an IPv4 literal is refused exactly if its address is. -/
theorem refuses_dottedIpv4_iff {parser : UrlParser} {url : String} {address : Ipv4Address}
    (hparse : parser.parse url = some { protocol := "https:", hostname := dottedIpv4 address }) :
    Refuses parser url ↔ ∃ reason, checkIpv4 address.toNat = .refused reason := by
  simp [Refuses, checkUrl_dottedIpv4 hparse]

/-- The literal of an IPv4 address is refused exactly if the address is. -/
theorem refusesLiteral_iff (address : Ipv4Address) :
    RefusesLiteral address ↔ ∃ reason, checkIpv4 address.toNat = .refused reason := by
  constructor
  · intro h
    let parser : UrlParser :=
      { parse := fun _ => some { protocol := "https:", hostname := dottedIpv4 address }
        resolve := fun _ _ => none }
    have hparse : parser.parse "" =
        some { protocol := "https:", hostname := dottedIpv4 address } := rfl
    exact (refuses_dottedIpv4_iff hparse).mp (h parser "" hparse)
  · intro h parser url hparse
    exact (refuses_dottedIpv4_iff hparse).mpr h

/-- The groups of every IPv6 address are recovered from its text, and a URL with the
address for its host is refused exactly if the address lies in a refused block or embeds
a refused IPv4 address.  Dotted literals are refused exactly in the listed blocks. -/
theorem addressLiterals_judged :
    (∀ (address : Ipv6Address) (text : List Char), Ipv6Text (ipv6Groups address) text →
      expandIpv6 text = some ((ipv6Groups address).map some)) ∧
    (∀ address : Ipv6Address,
      Ipv6Text (ipv6Groups address) (serializeIpv6 (ipv6Groups address))) ∧
    (∀ (parser : UrlParser) (url : String) (address : Ipv6Address) (text : List Char),
      Ipv6Text (ipv6Groups address) text →
      parser.parse url = some { protocol := "https:", hostname := bracketed text } →
      (Refuses parser url ↔
        (∃ block ∈ ipv6Blocks, block.Contains address.toNat) ∨
          ∃ embedding ∈ ipv4Embeddings, embedding.block.Contains address.toNat ∧
            RefusesLiteral (embedding.extract address))) ∧
    ∀ (parser : UrlParser) (url : String) (address : Ipv4Address),
      parser.parse url = some { protocol := "https:", hostname := dottedIpv4 address } →
      (Refuses parser url ↔ ∃ block ∈ ipv4Blocks, block.Contains address.toNat) := by
  have hlength (address : Ipv6Address) : (ipv6Groups address).length = 8 := by
    simp [ipv6Groups]
  refine ⟨?_, ?_, ?_, ?_⟩
  · intro address text htext
    exact expandIpv6_text (hlength address) htext
  · intro address
    exact ipv6Text_serializeIpv6 _
  · intro parser url address text htext hparse
    have hrefuses : Refuses parser url ↔
        ∃ reason, checkIpv6Groups ((ipv6Groups address).map some) = .refused reason := by
      simp [Refuses, checkUrl_bracketed (hlength address) htext hparse]
    simp only [hrefuses, checkIpv6Groups_refused_iff, refusesLiteral_iff]
  · intro parser url address hparse
    rw [refuses_dottedIpv4_iff hparse, checkIpv4_refused_iff address.isLt]

/-- A parser that knows a mapped loopback address and its dotted form. -/
def mappedParser : UrlParser where
  parse := fun url =>
    if url = "https://[::ffff:127.0.0.1]/" then
      some { protocol := "https:", hostname := "[::ffff:7f00:1]" }
    else if url = "https://127.0.0.1/" then
      some { protocol := "https:", hostname := "127.0.0.1" }
    else none
  resolve := fun _ _ => none

theorem addressLiterals_judged_mapped :
    Refuses mappedParser "https://[::ffff:127.0.0.1]/" ∧
      Refuses mappedParser "https://127.0.0.1/" := by
  have hloopback : ∃ block ∈ ipv4Blocks, block.Contains (0x7f000001#32 : Ipv4Address).toNat := by
    decide +kernel
  have hmapped : Ipv6Block.mapped.Contains (0xffff7f000001#128 : Ipv6Address).toNat := by
    decide +kernel
  have hextract : (Embedding.mk Ipv6Block.mapped 0).extract 0xffff7f000001#128 = 0x7f000001#32 := by
    decide +kernel
  have hdotted := addressLiterals_judged.2.2.2
  refine ⟨?_, (hdotted _ _ 0x7f000001#32 (by decide +kernel)).mpr hloopback⟩
  refine (addressLiterals_judged.2.2.1 _ _ 0xffff7f000001#128 _ (addressLiterals_judged.2.1 _)
    (by decide +kernel)).mpr (.inr ⟨_, List.mem_cons_self, hmapped, ?_⟩)
  rw [hextract]
  intro parser url hparse
  exact (hdotted parser url _ hparse).mpr hloopback

end VerifierCore
