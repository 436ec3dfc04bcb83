import IoTNode.MainLoop

set_option autoImplicit false

namespace IoTNode

open Coap Lobaro

def Json.Denotes (v : Json) (n : UInt8) : Prop :=
  v = .numberInteger n.toNat ∨ v = .numberFloat n.toNat

def ExactCasts (json : JsonLibrary) : Prop := ∀ v n, Json.Denotes v n → json.getUInt8 v = some n

theorem castUInt8_denotes {v : Json} {n : UInt8} (h : v.Denotes n) : v.castUInt8 = some n := by
  have hn := n.toNat_lt
  have hcast : UInt8.ofNat (((n.toNat : ℤ) % 256).toNat) = n := by
    have hmod : ((n.toNat : ℤ) % 256).toNat = n.toNat := by omega
    rw [hmod, UInt8.ofNat_toNat]
  rcases h with rfl | rfl
  · exact congrArg some hcast
  · have hq : (0 : ℚ) ≤ (n.toNat : ℚ) := Nat.cast_nonneg _
    have hfloor : (n.toNat : ℚ).floor = n.toNat := Rat.floor_intCast n.toNat
    dsimp only [Json.castUInt8]
    rw [if_pos hq, hfloor]
    exact congrArg some hcast

theorem referenceJson_exactCasts (parsed : List (List UInt8 × Json)) :
    ExactCasts (referenceJson parsed) := fun _ _ h => castUInt8_denotes h

namespace LEDResource

variable (lib : LobaroLibrary) (json : JsonLibrary)

def ColorReadable (input : Json) : Prop :=
  ∀ r g b, input.find "color" = some (.array [r, g, b]) →
    (json.getUInt8 r).isSome ∧ (json.getUInt8 g).isSome ∧ (json.getUInt8 b).isSome

section Reading

variable {lib json} {led : LEDResource} {request response : LobaroCoapMessage} {bytes : Payload}
  {input : Json}

theorem readColor_array {r g b : Json} {red green blue : UInt8}
    (h : input.find "color" = some (.array [r, g, b])) (hr : json.getUInt8 r = some red)
    (hg : json.getUInt8 g = some green) (hb : json.getUInt8 b = some blue) :
    readColor json input = .ok (some ⟨red, green, blue⟩) := by
  unfold readColor getUInt8
  rw [h]
  simp only [hr, hg, hb]
  rfl

theorem readColor_ignored (h : ∀ r g b, input.find "color" ≠ some (.array [r, g, b])) :
    readColor json input = .ok none := by
  unfold readColor
  split
  · exact absurd ‹_› (h _ _ _)
  · rfl

theorem readColor_throws {r g b : Json} (h : input.find "color" = some (.array [r, g, b]))
    (hn : ¬ ((json.getUInt8 r).isSome ∧ (json.getUInt8 g).isSome ∧ (json.getUInt8 b).isSome)) :
    readColor json input = .error .exception := by
  unfold readColor getUInt8
  rw [h]
  dsimp only
  cases hr : json.getUInt8 r with
  | none => rfl
  | some red =>
    cases hg : json.getUInt8 g with
    | none => rfl
    | some green =>
      cases hb : json.getUInt8 b with
      | none => rfl
      | some blue => exact absurd ⟨by simp [hr], by simp [hg], by simp [hb]⟩ hn

theorem readColor_ok_iff :
    (∃ color, readColor json input = .ok color) ↔ ColorReadable json input := by
  constructor
  · rintro ⟨color, hcolor⟩ r g b h
    by_contra hn
    rw [readColor_throws h hn] at hcolor
    cases hcolor
  · intro h
    by_cases hthree : ∃ r g b, input.find "color" = some (.array [r, g, b])
    · obtain ⟨r, g, b, hfind⟩ := hthree
      obtain ⟨hr, hg, hb⟩ := h r g b hfind
      obtain ⟨red, hr⟩ := Option.isSome_iff_exists.mp hr
      obtain ⟨green, hg⟩ := Option.isSome_iff_exists.mp hg
      obtain ⟨blue, hb⟩ := Option.isSome_iff_exists.mp hb
      exact ⟨_, readColor_array hfind hr hg hb⟩
    · exact ⟨none, readColor_ignored fun r g b hfind => hthree ⟨r, g, b, hfind⟩⟩

end Reading

def Answers (led : LEDResource) (request response : LobaroCoapMessage)
    (P : CoapMessageCode → Prop) : Prop :=
  ∃ led' outcome,
    handleRequest lib json led request response = .ok (led', outcome) ∧ P outcome.1.getCode

def CodeSet (code : CoapMessageCode) : Prop := code.Success ∨ code.ClientError

def IsObject (input : Json) : Prop := ∃ members, input = .object members

def Interprets (bytes : Payload) : Prop :=
  ∃ input, json.parse bytes = some input ∧ ColorReadable json input ∧ IsObject input

section Answering

variable {lib json} {led : LEDResource} {request response : LobaroCoapMessage} {bytes : Payload}
  {input : Json} {P : CoapMessageCode → Prop}

theorem answers_unparsed (h : parsedBytes lib request = none)
    (hp : P .badRequest ∧ P .content ∧ P .badOption) : Answers lib json led request response P := by
  have hread : readInput lib json led request = .ok none ∨ _ := readInput_unparsed lib json h
  unfold Answers
  rw [handleRequest_eq]
  rcases hread with hr | hr
  · rw [hr]
    exact ⟨_, _, rfl, hp.1⟩
  · rw [hr]
    refine ⟨_, _, rfl, ?_⟩
    rw [respond_getCode]
    split_ifs
    · exact hp.2.1
    · exact hp.2.2

theorem answers_parsed (h : parsedBytes lib request = some bytes) :
    Answers lib json led request response P ↔
      ∃ input, json.parse bytes = some input ∧ ColorReadable json input ∧
        P (if Supported (answerFormat lib request) then .changed else .badOption) := by
  constructor
  · rintro ⟨led', outcome, hr, hcode⟩
    rw [handleRequest_eq] at hr
    cases hparse : json.parse bytes with
    | none =>
      rw [readInput_parsed lib json h, hparse] at hr
      cases hr
    | some input =>
      have hposted : postedInput lib json request = some input := by
        rw [postedInput_eq, h]
        exact hparse
      rw [readInput_posted lib json hposted] at hr
      cases hcolor : readColor json input with
      | error abort => rw [hcolor] at hr; cases hr
      | ok color =>
        rw [hcolor] at hr
        obtain ⟨_, hr⟩ := Prod.mk.inj (Except.ok.inj hr)
        refine ⟨input, rfl, readColor_ok_iff.mp ⟨color, hcolor⟩, ?_⟩
        rw [← respond_getCode lib json _ (answerFormat lib request) .changed response, hr]
        exact hcode
  · rintro ⟨input, hparse, hread, hcode⟩
    obtain ⟨color, hcolor⟩ := readColor_ok_iff.mpr hread
    have hposted : postedInput lib json request = some input := by
      rw [postedInput_eq, h]
      exact hparse
    refine ⟨_, _, handleRequest_posted lib json hposted hcolor, ?_⟩
    rw [respond_getCode]
    exact hcode

theorem codeSet_posted (format : CoapContentType) :
    CodeSet (if Supported format then .changed else .badOption) := by
  unfold CodeSet
  split_ifs <;> decide

theorem clientError_posted (format : CoapContentType) :
    CoapMessageCode.ClientError (if Supported format then .changed else .badOption) ↔
      ¬ Supported format := by
  split_ifs with hs
  · exact iff_of_false (by decide) (not_not.mpr hs)
  · exact iff_of_true (by decide) hs

theorem returns_iff : Answers lib json led request response CodeSet ↔
    ∀ bytes, parsedBytes lib request = some bytes →
      ∃ input, json.parse bytes = some input ∧ ColorReadable json input := by
  cases hb : parsedBytes lib request with
  | none =>
    refine iff_of_true (answers_unparsed hb ?_) (fun _ h => by cases h)
    exact ⟨Or.inr (by decide), Or.inl (by decide), Or.inr (by decide)⟩
  | some bytes =>
    rw [answers_parsed hb]
    constructor
    · rintro ⟨input, hparse, hread, _⟩ _ ⟨⟩
      exact ⟨input, hparse, hread⟩
    · intro h
      obtain ⟨input, hparse, hread⟩ := h bytes rfl
      exact ⟨input, hparse, hread, codeSet_posted _⟩

end Answering

def Truthful (request : LobaroCoapMessage) (code : CoapMessageCode) : Prop :=
  CodeSet code ∧ ∀ bytes, parsedBytes lib request = some bytes → ¬ Interprets json bytes →
    code.ClientError

theorem post_answered_iff (led : LEDResource) (request response : LobaroCoapMessage) :
    (Answers lib json led request response CodeSet ↔
      ∀ bytes, parsedBytes lib request = some bytes →
        ∃ input, json.parse bytes = some input ∧ ColorReadable json input) ∧
    (Answers lib json led request response (Truthful lib json request) ↔
      ∀ bytes, parsedBytes lib request = some bytes →
        ∃ input, json.parse bytes = some input ∧ ColorReadable json input ∧
          (IsObject input ∨ ¬ Supported (answerFormat lib request))) := by
  refine ⟨returns_iff, ?_⟩
  cases hb : parsedBytes lib request with
  | none =>
    have hquiet : ∀ code, CodeSet code → Truthful lib json request code := by
      refine fun code hcode => ⟨hcode, fun _ h => ?_⟩
      rw [hb] at h
      cases h
    refine iff_of_true (answers_unparsed hb ?_) (fun _ h => by cases h)
    exact ⟨hquiet _ (Or.inr (by decide)), hquiet _ (Or.inl (by decide)),
      hquiet _ (Or.inr (by decide))⟩
  | some bytes =>
    rw [answers_parsed hb]
    constructor
    · rintro ⟨input, hparse, hread, _, htruth⟩ _ ⟨⟩
      refine ⟨input, hparse, hread, ?_⟩
      by_contra hneither
      rw [not_or] at hneither
      refine hneither.2 ((clientError_posted _).mp (htruth bytes hb ?_))
      rintro ⟨input', hparse', _, hobject⟩
      obtain rfl := Option.some.inj (hparse.symm.trans hparse')
      exact hneither.1 hobject
    · intro h
      obtain ⟨input, hparse, hread, hcase⟩ := h bytes rfl
      refine ⟨input, hparse, hread, codeSet_posted _, ?_⟩
      intro bytes' hb' hnot
      obtain rfl := Option.some.inj (hb.symm.trans hb')
      rcases hcase with hobject | hformat
      · exact absurd ⟨input, hparse, hread, hobject⟩ hnot
      · exact (clientError_posted _).mpr hformat

def brokenPost : LobaroCoapMessage :=
  { message :=
      { code := .post
        pOptionsList := [⟨12, 1, [50]⟩]
        payload := some [0x7b]
        payloadLength := 1 } }

theorem post_answered_counterexample :
    ¬ Answers referenceLibrary (referenceJson []) {} brokenPost {} CodeSet := by
  rintro ⟨led', outcome, hr, _⟩
  cases hr

end LEDResource

end IoTNode
