import VerifierCore.DataIntegrityCrypto.Rejection

/-!
# Verdicts on rejections

A date rejection says that the proof verified, so nothing else may be read as one: the
error's kind and its whole message decide.  Every other rejection is described by one
or more problems, and what the sub-errors say of verification methods is kept message
by message.

Main results:

- Theorem {lit}`classifyDateRejection_of_plain`: the date rejections, by the text their
  message is coerced to.
- Theorem {lit}`eachInOneProblem_faultProblems`: the messages of verification method
  faults and of what failed beside them.
- Theorem {lit}`rejection_verdict`: the errors with a right verdict, which are those whose
  message is read right.
-/

namespace VerifierCore

/-! ## Texts that match a pattern -/

/-- The later tails of a text are what is left behind a gap. -/
theorem mem_tails_tail_iff {text rest : List Char} :
    rest ∈ text.tails.tail ↔ ∃ gap, gap ≠ [] ∧ text = gap ++ rest := by
  cases text with
  | nil =>
      constructor
      · intro h
        cases h
      · rintro ⟨gap, hne, htext⟩
        exact absurd (List.append_eq_nil_iff.mp htext.symm).1 hne
  | cons c text =>
      rw [List.tails_cons, List.tail_cons, List.mem_tails]
      constructor
      · rintro ⟨front, rfl⟩
        exact ⟨c :: front, by simp, rfl⟩
      · rintro ⟨gap, hne, htext⟩
        cases gap with
        | nil => exact absurd rfl hne
        | cons d gap =>
            rw [List.cons_append, List.cons.injEq] at htext
            exact ⟨gap, htext.2.symm⟩

/-- A piece with others behind it is followed by one or more characters. -/
theorem matchesPieces_cons_cons_iff {piece next : List Char} {pieces : List (List Char)}
    {text : List Char} :
    matchesPieces (piece :: next :: pieces) text = true ↔
      ∃ gap rest, gap ≠ [] ∧ text = piece ++ gap ++ rest ∧
        matchesPieces (next :: pieces) rest = true := by
  rw [matchesPieces, Bool.and_eq_true, List.isPrefixOf_iff_prefix, List.any_eq_true]
  · simp only [mem_tails_tail_iff]
    constructor
    · rintro ⟨⟨behind, rfl⟩, rest, ⟨gap, hne, hbehind⟩, hmatch⟩
      rw [List.drop_left] at hbehind
      exact ⟨gap, rest, hne, by rw [hbehind, List.append_assoc], hmatch⟩
    · rintro ⟨gap, rest, hne, rfl, hmatch⟩
      rw [List.append_assoc, List.drop_left]
      exact ⟨List.prefix_append _ _, rest, ⟨gap, hne, rfl⟩, hmatch⟩
  · simp

/-- One piece matches itself only. -/
theorem matchesPieces_one_iff {piece text : List Char} :
    matchesPieces [piece] text = true ↔ text = piece := by
  rw [matchesPieces, decide_eq_true_eq, eq_comm]

/-- Text that `.+` matches. -/
structure DotPlus (text : String) : Prop where
  ne_empty : text ≠ ""
  one_line : text.toList.any isLineTerminator = false

/-- Characters without a line break are matched by `.+`. -/
theorem dotPlus_ofList {chars : List Char} (hne : chars ≠ [])
    (hline : chars.any isLineTerminator = false) : DotPlus (String.ofList chars) := by
  constructor
  · intro hempty
    exact hne (by simpa using congrArg String.toList hempty)
  · rwa [String.toList_ofList]

/-- What `.+` matches is not empty. -/
theorem DotPlus.toList_ne_nil {text : String} (h : DotPlus text) : text.toList ≠ [] := by
  intro hnil
  exact h.ne_empty (String.toList_eq_nil_iff.mp hnil)

/-- A pattern without a gap matches one text. -/
theorem matchesPattern_one_iff {piece text : String}
    (hpiece : piece.toList.any isLineTerminator = false) :
    matchesPattern [piece] text = true ↔ text = piece := by
  rw [matchesPattern, List.map_singleton, Bool.and_eq_true, matchesPieces_one_iff,
    String.toList_inj]
  constructor
  · exact fun h => h.2
  · rintro rfl
    exact ⟨by simp [hpiece], rfl⟩

/-- `/^p.+q.+r$/` matches what stands between its pieces. -/
theorem matchesPattern_three_iff {p q r text : String}
    (hp : p.toList.any isLineTerminator = false) (hq : q.toList.any isLineTerminator = false)
    (hr : r.toList.any isLineTerminator = false) :
    matchesPattern [p, q, r] text = true ↔
      ∃ first second, DotPlus first ∧ DotPlus second ∧ text = p ++ first ++ q ++ second ++ r := by
  rw [matchesPattern, Bool.and_eq_true, Bool.not_eq_true']
  simp only [List.map_cons, List.map_nil, matchesPieces_cons_cons_iff, matchesPieces_one_iff]
  constructor
  · rintro ⟨hline, first, rest, hfirst, htext, second, last, hsecond, rfl, rfl⟩
    rw [htext] at hline
    simp only [List.any_append, Bool.or_eq_false_iff] at hline
    refine ⟨String.ofList first, String.ofList second, dotPlus_ofList hfirst hline.1.2,
      dotPlus_ofList hsecond hline.2.1.2, String.toList_inj.mp ?_⟩
    simp [htext]
  · rintro ⟨first, second, hfirst, hsecond, rfl⟩
    refine ⟨?_, first.toList, (q ++ second ++ r).toList, hfirst.toList_ne_nil, by simp,
      second.toList, r.toList, hsecond.toList_ne_nil, by simp, rfl⟩
    simp only [String.toList_append, List.any_append, hp, hq, hr, hfirst.one_line,
      hsecond.one_line, Bool.or_false]

/-! ## Date rejections -/

/-- The library's message about a validity date, in full. -/
inductive ValidityDateText : DateRejection → String → Prop where
  | expired : ValidityDateText .expired "Credential has expired."
  | validUntil {now stop : String} : DotPlus now → DotPlus stop →
      ValidityDateText .expired
        ("The current date time (" ++ now ++ ") is after \"validUntil\" (" ++ stop ++ ").")
  | validFrom {now start : String} : DotPlus now → DotPlus start →
      ValidityDateText .notYetValid
        ("The current date time (" ++ now ++ ") is before \"validFrom\" (" ++ start ++ ").")
  | issuanceDate {now start : String} : DotPlus now → DotPlus start →
      ValidityDateText .notYetValid
        ("The current date time (" ++ now ++ ") is before the \"issuanceDate\" (" ++ start ++
          ").")

/-- The patterns of a kind match the texts of the library for it. -/
theorem validityDateText_iff {kind : DateRejection} {text : String} :
    (dateRejectionMessages kind).any (fun pieces => matchesPattern pieces text) = true ↔
      ValidityDateText kind text := by
  cases kind with
  | expired =>
      rw [dateRejectionMessages, List.any_cons, List.any_cons, List.any_nil, Bool.or_false,
        Bool.or_eq_true, matchesPattern_one_iff (by decide),
        matchesPattern_three_iff (by decide) (by decide) (by decide)]
      constructor
      · rintro (rfl | ⟨now, stop, hnow, hstop, rfl⟩)
        · exact .expired
        · exact .validUntil hnow hstop
      · intro h
        cases h with
        | expired => exact .inl rfl
        | validUntil hnow hstop => exact .inr ⟨_, _, hnow, hstop, rfl⟩
  | notYetValid =>
      rw [dateRejectionMessages, List.any_cons, List.any_cons, List.any_nil, Bool.or_false,
        Bool.or_eq_true, matchesPattern_three_iff (by decide) (by decide) (by decide),
        matchesPattern_three_iff (by decide) (by decide) (by decide)]
      constructor
      · rintro (⟨now, start, hnow, hstart, rfl⟩ | ⟨now, start, hnow, hstart, rfl⟩)
        · exact .validFrom hnow hstart
        · exact .issuanceDate hnow hstart
      · intro h
        cases h with
        | validFrom hnow hstart => exact .inl ⟨_, _, hnow, hstart, rfl⟩
        | issuanceDate hnow hstart => exact .inr ⟨_, _, hnow, hstart, rfl⟩

/-- A plain `Error`: no `VerificationError`, and no aggregate of others. -/
structure PlainError (error : JsValue) : Prop where
  isError : error.isError = true
  not_verificationError : error.hasName "VerificationError" = false
  no_errors : error.errors? = none

/-- A plain `Error` whose whole message is about a validity date. -/
structure DateRejected (error : JsValue) : Prop where
  plain : PlainError error
  text : ∃ kind text, error.get "message" = .str text ∧ ValidityDateText kind text

/-- A text is one of the messages exactly if it is about a validity date. -/
theorem dateRejectionOfText_isSome_iff {text : String} :
    (dateRejectionOfText text).isSome = true ↔ ∃ kind, ValidityDateText kind text := by
  rw [dateRejectionOfText, List.find?_isSome]
  simp only [validityDateText_iff]
  constructor
  · rintro ⟨kind, _, htext⟩
    exact ⟨kind, htext⟩
  · rintro ⟨kind, htext⟩
    exact ⟨kind, by cases kind <;> simp, htext⟩

/-- The message of a plain error is coerced to a text, and the text decides. -/
theorem classifyDateRejection_of_plain {platform : Platform} {error : JsValue}
    (h : PlainError error) :
    classifyDateRejection platform error =
      ((error.get "message").coerceToString platform).map dateRejectionOfText := by
  rw [classifyDateRejection, if_neg (by simp [h.isError, h.not_verificationError]),
    if_neg (by simp [h.no_errors])]

/-- The message of any other error is not looked at. -/
theorem classifyDateRejection_of_not_plain {platform : Platform} {error : JsValue}
    (h : ¬PlainError error) : classifyDateRejection platform error = .ok none := by
  unfold classifyDateRejection
  by_cases hkind : (!error.isError || error.hasName "VerificationError") = true
  · rw [if_pos hkind]
  · rw [if_neg hkind]
    rw [Bool.not_eq_true, Bool.or_eq_false_iff, Bool.not_eq_false'] at hkind
    by_cases herrors : error.errors?.isSome = true
    · rw [if_pos herrors]
    · have hnone : error.errors? = none := by simpa using herrors
      exact absurd ⟨hkind.1, hkind.2, hnone⟩ h

/-- What a plain error has for a message is a text, or is coerced to one that is about no
date. -/
def MessageReadRight (platform : Platform) (error : JsValue) : Prop :=
  PlainError error →
    (∃ text, error.get "message" = .str text) ∨
      ∃ text, (error.get "message").coerceToString platform = .ok text ∧
        ∀ kind, ¬ValidityDateText kind text

/-- A message that is read right can be read, and the date rejections are found by it. -/
theorem MessageReadRight.classified {platform : Platform} {error : JsValue}
    (h : MessageReadRight platform error) :
    ∃ dated, classifyDateRejection platform error = .ok dated ∧
      (dated.isSome = true ↔ DateRejected error) := by
  by_cases hplain : PlainError error
  · rw [classifyDateRejection_of_plain hplain]
    rcases h hplain with ⟨text, hmessage⟩ | ⟨text, hcoerced, hnot⟩
    · refine ⟨dateRejectionOfText text, by rw [hmessage]; rfl, ?_⟩
      rw [dateRejectionOfText_isSome_iff]
      constructor
      · rintro ⟨kind, htext⟩
        exact ⟨hplain, kind, text, hmessage, htext⟩
      · rintro ⟨_, kind, text', hmessage', htext⟩
        rw [hmessage] at hmessage'
        cases hmessage'
        exact ⟨kind, htext⟩
    · refine ⟨dateRejectionOfText text, by rw [hcoerced]; rfl, ?_⟩
      rw [dateRejectionOfText_isSome_iff]
      refine iff_of_false (not_exists.mpr hnot) ?_
      rintro ⟨_, kind, text', hmessage, htext⟩
      rw [hmessage] at hcoerced
      cases hcoerced
      exact hnot kind htext
  · refine ⟨none, classifyDateRejection_of_not_plain hplain, ?_⟩
    exact iff_of_false (by simp) fun h => hplain h.plain

/-- A message that is not read right cannot be read, or makes a date rejection of an error
that is none. -/
theorem classified_of_not_messageReadRight {platform : Platform} {error : JsValue}
    (h : ¬MessageReadRight platform error) :
    (∃ thrown, classifyDateRejection platform error = .error thrown) ∨
      IsDateRejection platform error ∧ ¬DateRejected error := by
  rw [MessageReadRight, Classical.not_imp, not_or] at h
  rcases h with ⟨hplain, hnotText, hnotOther⟩
  rw [IsDateRejection, classifyDateRejection_of_plain hplain]
  cases hcoerced : (error.get "message").coerceToString platform with
  | error thrown => exact .inl ⟨thrown, rfl⟩
  | ok text =>
      right
      have hdated : ∃ kind, ValidityDateText kind text := by
        by_contra hnone
        exact hnotOther ⟨text, hcoerced, not_exists.mp hnone⟩
      constructor
      · rcases Option.isSome_iff_exists.mp (dateRejectionOfText_isSome_iff.mpr hdated) with
          ⟨kind, hkind⟩
        exact ⟨kind, by rw [Except.map, hkind]⟩
      · rintro ⟨_, _, other, hmessage, _⟩
        exact hnotText ⟨other, hmessage⟩

/-- A date rejection is always described: the date that is quoted is a text. -/
theorem dateRejectionProblem_ok (platform : Platform) (kind : DateRejection)
    (credential : Option Json) (now : ℚ) :
    ∃ problem, dateRejectionProblem platform kind credential now none = .ok problem ∧
      problem.type = (dateRejections kind).type := by
  unfold dateRejectionProblem
  dsimp only [Option.none_or]
  cases hquoted : (dateRejections kind).properties.find? fun name =>
      (asString (credential.bind (Json.get? · name))).isSome with
  | none => exact ⟨_, rfl, rfl⟩
  | some name =>
      have htext := List.find?_some hquoted
      cases hvalue : credential.bind (Json.get? · name) with
      | none => exact ⟨_, by simp only [hvalue]; rfl, rfl⟩
      | some value =>
          rw [hvalue] at htext
          cases value with
          | str date => exact ⟨_, by simp only [hvalue, Platform.coerceToString]; rfl, rfl⟩
          | null | bool | num | arr | obj => cases htext

/-! ## The messages of sub-errors -/

/-- What a sub-error is described by: its message, or the method it names. -/
def subErrorText (e : JsValue) : Option String :=
  (subErrorMessage e).or ((verificationMethodError e).map typedFaultDetail)

/-- Adding a text adds no other. -/
theorem mem_addText_iff {texts : List String} {text other : String} :
    other ∈ addText texts text ↔ other ∈ texts ∨ other = text := by
  unfold addText
  split_ifs with hmem
  · constructor
    · exact .inl
    · rintro (hother | rfl)
      · exact hother
      · exact hmem
  · rw [List.mem_append, List.mem_singleton]

/-- A text is added once. -/
theorem nodup_addText {texts : List String} (h : texts.Nodup) (text : String) :
    (addText texts text).Nodup := by
  unfold addText
  split_ifs with hmem
  · exact h
  · exact List.nodup_append.mpr ⟨h, List.nodup_singleton text, by
      intro other hother last hlast
      rw [List.mem_singleton.mp hlast]
      rintro rfl
      exact hmem hother⟩

/-- The messages are those of the errors, each once, and the faults are some of them. -/
structure SubErrorMessages.Covers (found : SubErrorMessages) (errors : List JsValue) : Prop where
  nodup : found.messages.Nodup
  faults_nodup : found.faults.Nodup
  faults_subset : found.faults ⊆ found.messages
  mem_iff : ∀ message, message ∈ found.messages ↔ ∃ e ∈ errors, subErrorText e = some message

/-- Noting one more error keeps it so. -/
theorem SubErrorMessages.Covers.note {found : SubErrorMessages} {errors : List JsValue}
    (h : found.Covers errors) (e : JsValue) : (found.note e).Covers (errors ++ [e]) := by
  have hconcat (message : String) : (∃ other ∈ errors ++ [e], subErrorText other = some message) ↔
      message ∈ found.messages ∨ subErrorText e = some message := by
    simp only [List.mem_append, List.mem_singleton, or_and_right, exists_or, exists_eq_left,
      h.mem_iff]
  unfold SubErrorMessages.note
  dsimp only
  cases htext : subErrorText e with
  | none =>
      rw [subErrorText] at htext
      rw [htext]
      refine ⟨h.nodup, h.faults_nodup, h.faults_subset, ?_⟩
      intro message
      rw [hconcat, subErrorText, htext]
      simp
  | some text =>
      have hfound := htext
      rw [subErrorText] at hfound
      rw [hfound]
      refine ⟨nodup_addText h.nodup text, ?_, ?_, ?_⟩
      · dsimp only
        split_ifs
        · exact nodup_addText h.faults_nodup text
        · exact h.faults_nodup
      · intro message hmessage
        dsimp only at hmessage
        split_ifs at hmessage
        · rcases mem_addText_iff.mp hmessage with hmem | rfl
          · exact mem_addText_iff.mpr (.inl (h.faults_subset hmem))
          · exact mem_addText_iff.mpr (.inr rfl)
        · exact mem_addText_iff.mpr (.inl (h.faults_subset hmessage))
      · intro message
        rw [hconcat, htext, mem_addText_iff, Option.some.injEq, eq_comm]

/-- The partition of a list of errors covers all of them. -/
theorem covers_partitionSubErrorMessages (errors : List JsValue) :
    (partitionSubErrorMessages errors).Covers errors := by
  induction errors using List.reverseRecOn with
  | nil => exact ⟨by simp [partitionSubErrorMessages], by simp [partitionSubErrorMessages],
      by simp [partitionSubErrorMessages], by simp [partitionSubErrorMessages]⟩
  | append_singleton errors e ih =>
      have hlast : partitionSubErrorMessages (errors ++ [e]) =
          (partitionSubErrorMessages errors).note e := List.foldl_concat _ _ _ _
      rw [hlast]
      exact ih.note e

/-- Something is said of every typed fault. -/
theorem typedFaultDetail_ne_empty (typed : JsValue) : typedFaultDetail typed ≠ "" := by
  intro hempty
  have hend := (String.append_eq_empty_iff.mp hempty).2
  exact absurd hend (by decide)

/-- No error is described by the empty text. -/
theorem subErrorText_ne_empty {e : JsValue} {message : String}
    (h : subErrorText e = some message) : message ≠ "" := by
  rcases Option.or_eq_some_iff.mp h with hmessage | ⟨_, htyped⟩
  · have hkept := (Option.filter_eq_some_iff.mp hmessage).2
    simpa using hkept
  · rcases Option.map_eq_some_iff.mp htyped with ⟨typed, _, rfl⟩
    exact typedFaultDetail_ne_empty typed

/-! ## Messages in problems -/

/-- Every message of the errors is in exactly one problem: the details of the problems
are the messages, each once, some of them joined. -/
def EachInOneProblem (errors : List JsValue) (problems : List ProblemDetail) : Prop :=
  ∃ parts : List (List String),
    problems.map ProblemDetail.detail = parts.map (join "; ") ∧ parts.flatten.Nodup ∧
    (∀ message ∈ parts.flatten, ∃ e ∈ errors, subErrorText e = some message) ∧
    ∀ e ∈ errors, ∀ message, subErrorText e = some message →
      ∃! i : Nat, ∃ part, parts[i]? = some part ∧ message ∈ part

/-- Where no message is twice in the parts, each is in one of them. -/
theorem existsUnique_part {parts : List (List String)} (hnodup : parts.flatten.Nodup)
    {message : String} (hmem : message ∈ parts.flatten) :
    ∃! i : Nat, ∃ part, parts[i]? = some part ∧ message ∈ part := by
  rcases List.mem_flatten.mp hmem with ⟨part, hpart, hmessage⟩
  rcases List.getElem?_of_mem hpart with ⟨i, hi⟩
  refine ⟨i, ⟨part, hi, hmessage⟩, ?_⟩
  rintro j ⟨other, hj, hother⟩
  have hdisjoint := List.pairwise_iff_getElem.mp (List.nodup_flatten.mp hnodup).2
  rcases List.getElem?_eq_some_iff.mp hi with ⟨hlt, rfl⟩
  rcases List.getElem?_eq_some_iff.mp hj with ⟨hlt', rfl⟩
  by_contra hne
  rcases Nat.lt_or_gt_of_ne hne with hless | hless
  · exact hdisjoint j i hlt' hlt hless hother hmessage
  · exact hdisjoint i j hlt hlt' hless hmessage hother

/-- Texts that say something are joined to one that does. -/
theorem join_ne_empty {separator : String} {texts : List String} (hne : texts ≠ [])
    (h : ∀ text ∈ texts, text ≠ "") : join separator texts ≠ "" := by
  cases texts with
  | nil => exact absurd rfl hne
  | cons text rest =>
      have htext := h text List.mem_cons_self
      cases rest with
      | nil => exact htext
      | cons next rest =>
          intro hempty
          have hlist := congrArg String.toList hempty
          simp [join, htext] at hlist

/-- The generic verdict quotes the messages. -/
theorem detail_invalidSignature {messages : List String} (hne : messages ≠ [])
    (h : ∀ message ∈ messages, message ≠ "") :
    (invalidSignature messages).detail = join "; " messages := by
  rw [invalidSignature]
  dsimp only
  rw [if_pos (join_ne_empty hne h)]

/-- The other messages are those that are no faults. -/
theorem SubErrorMessages.mem_others_iff {found : SubErrorMessages} {message : String} :
    message ∈ found.others ↔ message ∈ found.messages ∧ message ∉ found.faults := by
  simp [SubErrorMessages.others]

/-- The messages that each problem of verification methods tells. -/
def SubErrorMessages.parts (found : SubErrorMessages) : List (List String) :=
  found.faults.map (fun fault => [fault]) ++
    if found.others.length > 0 then [found.others] else []

/-- Faults and others are all there is. -/
theorem SubErrorMessages.flatten_parts (found : SubErrorMessages) :
    found.parts.flatten = found.faults ++ found.others := by
  have hothers : (if found.others.length > 0 then [found.others] else []).flatten =
      found.others := by
    split_ifs with hsome
    · simp
    · simp [List.length_eq_zero_iff.mp (by omega : found.others.length = 0)]
  rw [parts, List.flatten_append, hothers, ← List.flatMap_def, List.flatMap_singleton']

/-- The details are the parts, joined. -/
theorem map_detail_faultProblems {found : SubErrorMessages}
    (hothers : ∀ message ∈ found.others, message ≠ "") :
    (faultProblems found).map ProblemDetail.detail = found.parts.map (join "; ") := by
  rw [faultProblems, SubErrorMessages.parts, List.map_append, List.map_append, List.map_map,
    List.map_map]
  congr 1
  split_ifs with hsome
  · rw [List.map_singleton, List.map_singleton,
      detail_invalidSignature (List.length_pos_iff.mp hsome) hothers]
  · rfl

/-- The problems of verification methods and the one beside them tell every message once. -/
theorem eachInOneProblem_faultProblems (errors : List JsValue) :
    EachInOneProblem errors (faultProblems (partitionSubErrorMessages errors)) := by
  have hcovers := covers_partitionSubErrorMessages errors
  generalize partitionSubErrorMessages errors = found at hcovers
  have hnodup : found.parts.flatten.Nodup := by
    rw [found.flatten_parts]
    refine List.nodup_append.mpr ⟨hcovers.faults_nodup, hcovers.nodup.filter _, ?_⟩
    rintro fault hfault other hother rfl
    exact (SubErrorMessages.mem_others_iff.mp hother).2 hfault
  have hmem (message : String) :
      message ∈ found.parts.flatten ↔ ∃ e ∈ errors, subErrorText e = some message := by
    rw [found.flatten_parts, List.mem_append, SubErrorMessages.mem_others_iff, ← hcovers.mem_iff]
    constructor
    · rintro (hfault | hother)
      · exact hcovers.faults_subset hfault
      · exact hother.1
    · intro hmessage
      by_cases hfault : message ∈ found.faults
      · exact .inl hfault
      · exact .inr ⟨hmessage, hfault⟩
  have hothers : ∀ message ∈ found.others, message ≠ "" := by
    intro message hmessage
    rcases (hcovers.mem_iff message).mp (SubErrorMessages.mem_others_iff.mp hmessage).1 with
      ⟨e, _, htext⟩
    exact subErrorText_ne_empty htext
  refine ⟨found.parts, map_detail_faultProblems hothers, hnodup,
    fun message h => (hmem message).mp h, ?_⟩
  intro e he message hmessage
  exact existsUnique_part hnodup ((hmem message).mpr ⟨e, he, hmessage⟩)

/-! ## The verdict on any error -/

/-- The member is a text if it is present. -/
def JsValue.TextIfPresent (value : JsValue) (key : String) : Prop :=
  value.get key = .undefined ∨ ∃ text, value.get key = .str text

/-- The errors state URLs as texts. -/
def TextUrls (errors : List JsValue) : Prop :=
  ∀ e ∈ errors, e.TextIfPresent "requestUrl" ∧ e.TextIfPresent "url"

/-- Where both members are texts if present, the URL is a text. -/
theorem requestUrl_of_textIfPresent {httpError : JsValue}
    (hrequest : httpError.TextIfPresent "requestUrl") (hurl : httpError.TextIfPresent "url") :
    ∃ url, requestUrl httpError = .str url := by
  unfold requestUrl
  split_ifs with hhasRequest hhasUrl
  · rcases hrequest with hmissing | htext
    · rw [hmissing] at hhasRequest
      cases hhasRequest
    · exact htext
  · rcases hurl with hmissing | htext
    · rw [hmissing] at hhasUrl
      cases hhasUrl
    · exact htext
  · exact ⟨"", rfl⟩

/-- Whether a failed request is blamed on the issuer's document or not, one problem says so. -/
theorem httpProblems_ok {platform : Platform} {httpError : JsValue} {url : String}
    (hurl : requestUrl httpError = .str url) (credential : Option Json) :
    ∃ problem, httpProblems platform httpError credential = .ok [problem] ∧
      (problem.type = ProblemTypes.didWebUnresolved ∨ problem.type = ProblemTypes.httpError) := by
  unfold httpProblems
  simp only [hurl]
  split_ifs
  · exact ⟨_, rfl, .inl rfl⟩
  · exact ⟨_, rfl, .inr rfl⟩
  · exact ⟨_, rfl, .inr rfl⟩

/-- The problem types of errors that are no date rejections. -/
def signatureProblemTypes : List String :=
  ["PARSING_ERROR", "DID_WEB_UNRESOLVED", "HTTP_ERROR"].map problemType ++ proofFaultTypes

/-- An error that is no date rejection has problems, and none of them is about a date. -/
theorem signatureProblems_ok {platform : Platform} {error : JsValue}
    (hurls : TextUrls (extractErrors error)) (credential : Option Json) :
    ∃ problems, signatureProblems platform error credential = .ok problems ∧ problems ≠ [] ∧
      ∀ problem ∈ problems, problem.type ∈ signatureProblemTypes := by
  rcases (signatureVerdict platform error credential).type_cases with
    ⟨hjsonld, hverdict⟩ | ⟨httpError, hhttp, hverdict⟩ |
      ⟨_, ⟨_, detail, hverdict⟩ | ⟨_, problems, hverdict, hfaults⟩⟩
  · refine ⟨_, hverdict, ?_, ?_⟩
    · intro hnil
      rw [List.map_eq_nil_iff.mp hnil] at hjsonld
      cases hjsonld
    · intro problem hproblem
      rcases List.mem_map.mp hproblem with ⟨e, _, rfl⟩
      exact List.mem_append_left _ (List.mem_map_of_mem (by simp))
  · have htexts := hurls httpError (List.mem_of_find?_eq_some hhttp)
    rcases requestUrl_of_textIfPresent htexts.1 htexts.2 with ⟨url, hurl⟩
    rcases httpProblems_ok hurl credential with ⟨problem, hproblems, htype⟩
    refine ⟨[problem], hverdict.trans hproblems, by simp, ?_⟩
    intro other hother
    rw [List.mem_singleton.mp hother]
    rcases htype with htype | htype
    · rw [htype]
      exact List.mem_append_left _ (List.mem_map_of_mem (by simp))
    · rw [htype]
      exact List.mem_append_left _ (List.mem_map_of_mem (by simp))
  · refine ⟨_, hverdict, by simp [didUnresolvedProblems], ?_⟩
    intro problem hproblem
    rw [List.mem_singleton.mp hproblem]
    exact List.mem_append_left _ (List.mem_map_of_mem (by simp))
  · exact ⟨problems, hverdict, hfaults.1, fun problem hproblem =>
      List.mem_append_right _ (hfaults.2 problem hproblem)⟩

/-- Where verification methods are to blame, they are what is reported. -/
theorem signatureProblems_of_blames {platform : Platform} {error : JsValue}
    (h : BlamesVerificationMethod (extractErrors error)) (credential : Option Json) :
    signatureProblems platform error credential =
      .ok (faultProblems (partitionSubErrorMessages (extractErrors error))) := by
  have hverdict := signatureVerdict platform error credential
  generalize signatureProblems platform error credential = verdict at hverdict
  cases hverdict with
  | jsonld hjsonld =>
      rw [h.jsonld] at hjsonld
      cases hjsonld
  | http hhttp =>
      rw [h.http] at hhttp
      cases hhttp
  | didUnresolved _ hunresolved =>
      rw [h.resolved] at hunresolved
      cases hunresolved
  | verificationMethod => rfl
  | proof _ _ _ hnot => exact absurd h hnot

/-- The problem is about a validity date. -/
def IsDateProblem (problem : ProblemDetail) : Prop :=
  problem.type = ProblemTypes.credentialExpired ∨
    problem.type = ProblemTypes.credentialNotYetValid

/-- The problems of a signature are no date problems. -/
theorem not_isDateProblem {problem : ProblemDetail}
    (h : problem.type ∈ signatureProblemTypes) : ¬IsDateProblem problem := by
  rw [signatureProblemTypes, proofFaultTypes, ← List.map_append] at h
  rintro (htype | htype)
  · rw [htype, ProblemTypes.credentialExpired,
      List.mem_map_of_injective problemType_injective] at h
    revert h
    decide
  · rw [htype, ProblemTypes.credentialNotYetValid,
      List.mem_map_of_injective problemType_injective] at h
    revert h
    decide

/-- A problem of the type of a date rejection is a date problem. -/
theorem isDateProblem_of_type {problem : ProblemDetail} {kind : DateRejection}
    (h : problem.type = (dateRejections kind).type) : IsDateProblem problem := by
  cases kind with
  | expired => exact .inl h
  | notYetValid => exact .inr h

/-- The library's rejection leads to a verdict. -/
structure RejectionVerdict (platform : Platform) (error : JsValue) (credential : Option Json)
    (now : ℚ) (problems : List ProblemDetail) (proofVerified : Option Bool) : Prop where
  classified : classifySignatureError platform error credential now = .ok problems
  rejected : rejection platform error credential now = .ok (.rejected problems proofVerified)
  described : problems ≠ []
  /-- Only a date rejection vouches for the proof. -/
  proofVerified_iff : proofVerified = some true ↔ DateRejected error
  /-- Only what vouches for the proof is about dates. -/
  dates_iff : (∃ problem ∈ problems, IsDateProblem problem) ↔ proofVerified = some true
  /-- Where verification methods are to blame, no message is lost or told twice. -/
  messages : classifyDateRejection platform error = .ok none →
    BlamesVerificationMethod (extractErrors error) →
    EachInOneProblem (extractErrors error) problems

/-- Where the message is read right, there is such a verdict. -/
theorem exists_rejectionVerdict {platform : Platform} {error : JsValue}
    {credential : Option Json} {now : ℚ} (hurls : TextUrls (extractErrors error))
    (hread : MessageReadRight platform error) :
    ∃ problems proofVerified,
      RejectionVerdict platform error credential now problems proofVerified := by
  rcases hread.classified with ⟨dated, hdate, hrejected⟩
  cases dated with
  | some kind =>
      rcases dateRejectionProblem_ok platform kind credential now with ⟨problem, hproblem, htype⟩
      have hclassified : classifySignatureError platform error credential now = .ok [problem] := by
        rw [classifySignatureError, hdate]
        change (dateRejectionProblem platform kind credential now none >>= _) = _
        rw [hproblem]
        rfl
      refine ⟨[problem], some true, hclassified, ?_, by simp, ?_, ?_, ?_⟩
      · rw [rejection, hclassified, hdate]
        rfl
      · exact iff_of_true rfl (hrejected.mp rfl)
      · exact iff_of_true ⟨problem, List.mem_singleton_self _, isDateProblem_of_type htype⟩ rfl
      · intro hnone
        rw [hnone] at hdate
        cases hdate
  | none =>
      have hnot : ¬DateRejected error := fun h => by simpa using hrejected.mpr h
      rcases signatureProblems_ok hurls credential with ⟨problems, hproblems, hne, htypes⟩
      have hclassified : classifySignatureError platform error credential now = .ok problems := by
        rw [classifySignatureError, hdate]
        exact hproblems
      refine ⟨problems, none, hclassified, ?_, hne, ?_, ?_, ?_⟩
      · rw [rejection, hclassified, hdate]
        rfl
      · exact iff_of_false (by simp) hnot
      · refine iff_of_false ?_ (by simp)
        rintro ⟨problem, hproblem, hdateProblem⟩
        exact not_isDateProblem (htypes problem hproblem) hdateProblem
      · intro _ hblames
        have hfaults := @signatureProblems_of_blames platform error hblames credential
        rw [hproblems] at hfaults
        rw [Except.ok.inj hfaults]
        exact eachInOneProblem_faultProblems (extractErrors error)

/-- A verdict vouches for the proof exactly if the error was read as a date rejection. -/
theorem proofVerified_of_rejection {platform : Platform} {error : JsValue}
    {credential : Option Json} {now : ℚ} {problems : List ProblemDetail}
    {proofVerified : Option Bool}
    (h : rejection platform error credential now = .ok (.rejected problems proofVerified)) :
    proofVerified = some true ↔ IsDateRejection platform error := by
  unfold rejection at h
  cases hclassified : classifySignatureError platform error credential now with
  | error thrown =>
      rw [hclassified] at h
      cases h
  | ok found =>
      rw [hclassified] at h
      cases hdate : classifyDateRejection platform error with
      | error thrown =>
          rw [hdate] at h
          cases h
      | ok dated =>
          rw [hdate] at h
          cases h
          rw [IsDateRejection, hdate]
          cases dated with
          | none => simp
          | some kind => simp

/-- There is such a verdict on an error exactly if its message is read right. -/
theorem rejection_verdict {platform : Platform} {error : JsValue} {credential : Option Json}
    {now : ℚ} (hurls : TextUrls (extractErrors error)) :
    (∃ problems proofVerified,
        RejectionVerdict platform error credential now problems proofVerified) ↔
      MessageReadRight platform error := by
  constructor
  · rintro ⟨problems, proofVerified, hverdict⟩
    by_contra hread
    rcases classified_of_not_messageReadRight hread with ⟨thrown, hthrown⟩ | ⟨hdated, hnot⟩
    · have hclassified := hverdict.classified
      rw [classifySignatureError, hthrown] at hclassified
      cases hclassified
    · exact hnot (hverdict.proofVerified_iff.mp
        ((proofVerified_of_rejection hverdict.rejected).mpr hdated))
  · exact exists_rejectionVerdict hurls

/-! ### A method that is not authorized, beside another failure -/

/-- A wrapped error that blames the verification method. -/
def unknownMethod : JsValue :=
  .obj false
    [("error", .obj true [("message", .str "Verification method did:example:issuer#key not found.")]
      (.ok "Error: Verification method did:example:issuer#key not found."))]
    (.ok "[object Object]")

/-- An error that does not. -/
def tamperedDocument : JsValue :=
  .obj true [("message", .str "Invalid signature.")] (.ok "Error: Invalid signature.")

/-- Two proofs of a set failed, the first for its verification method. -/
def faultRejection : JsValue :=
  .obj true [("name", .str "VerificationError"),
    ("errors", .arr [unknownMethod, .null, tamperedDocument])] (.ok "VerificationError")

/-- The set's error has a verdict, since it is no plain one. -/
theorem rejection_verdict_fault :
    (∃ problems proofVerified, RejectionVerdict (PlatformTable.platform {}) faultRejection none 0
        problems proofVerified) ↔
      MessageReadRight (PlatformTable.platform {}) faultRejection := by
  apply rejection_verdict
  have herrors : extractErrors faultRejection = [unknownMethod, tamperedDocument] := rfl
  rw [herrors]
  intro e he
  rcases List.mem_pair.mp he with rfl | rfl
  · exact ⟨.inl rfl, .inl rfl⟩
  · exact ⟨.inl rfl, .inl rfl⟩

/-! ### A message that is no text -/

/-- An error with a list for its message. -/
def listedMessage : JsValue :=
  .obj true [("message", .arr [.str "Credential has expired."])]
    (.ok "Error: Credential has expired.")

/-- The list is coerced to its only item, and the error vouches for the proof. -/
theorem not_rejectionVerdict_listedMessage :
    ¬∀ (platform : Platform) (error : JsValue) (credential : Option Json) (now : ℚ),
      TextUrls (extractErrors error) → ∃ problems proofVerified,
        RejectionVerdict platform error credential now problems proofVerified := by
  intro hall
  have hurls : TextUrls (extractErrors listedMessage) := by
    intro e he
    rw [List.mem_singleton.mp he]
    exact ⟨.inl rfl, .inl rfl⟩
  obtain ⟨problems, proofVerified, hverdict⟩ :=
    hall (PlatformTable.platform {}) listedMessage none 0 hurls
  have hdated : IsDateRejection (PlatformTable.platform {}) listedMessage :=
    ⟨.expired, by decide +kernel⟩
  obtain ⟨_, text, hmessage, _⟩ := (hverdict.proofVerified_iff.mp
    ((proofVerified_of_rejection hverdict.rejected).mpr hdated)).text
  cases hmessage

end VerifierCore
