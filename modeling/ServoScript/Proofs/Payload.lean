import ServoScript.Payload
import ServoScript.Proofs.Word

/-!
# What payloads become

For a device with a number of channels that there is room for, reading a payload never faults: it
gives a flaw, or frames whose durations and targets are words and that have no more targets than the
device has channels. This holds of lists and of texts of targets alike.
-/

namespace ServoScript

namespace Frame

theorem targetCount_of_room [Memory] {count : Int} (h : count < Memory.items) :
    targetCount count = .ok count.toNat := by
  have hword : count < Json.wordBound := Int.lt_of_lt_of_le h Memory.items_le
  rw [targetCount, if_neg (Int.not_le.2 hword), if_neg (Int.not_le.2 h)]

theorem targetCount_of_no_room [Memory] {count : Int} (h : Memory.items ≤ count) :
    targetCount count = .error (if Json.wordBound ≤ count then .hugeCount else .noRoom) := by
  rw [targetCount, if_pos h]
  split <;> rfl

theorem targetCount_ofNat [Memory] {n : Nat} (h : (n : Int) < Memory.items) : targetCount n = .ok n :=
  targetCount_of_room h

theorem length_targetsOfText (count : Nat) (t : Text) : (targetsOfText count t).length = count := by
  simp only [targetsOfText, List.length_append, List.length_map, List.length_take,
    List.length_replicate]
  omega

theorem mem_targetsOfText {count : Nat} {t : Text} {v : Int} (h : v ∈ targetsOfText count t) :
    0 ≤ v ∧ v ≤ 65535 := by
  rcases List.mem_append.mp h with hw | hz
  · obtain ⟨word, _, rfl⟩ := List.mem_map.mp hw
    have hle := Word.parseD_le word (Nat.zero_le 65535)
    omega
  · rw [List.eq_of_mem_replicate hz]
    decide

theorem word?_eq_some_iff {v : Json} {n : Int} : word? v = some n ↔ v = .int n ∧ 0 ≤ n ∧ n ≤ 65535 := by
  cases v with
  | int m =>
    simp only [word?, Json.int.injEq]
    split_ifs with hw
    · refine ⟨?_, fun h => congrArg some h.1⟩
      rintro ⟨⟩
      exact ⟨rfl, Word.isWord_iff.mp hw⟩
    · refine ⟨nofun, ?_⟩
      rintro ⟨rfl, h⟩
      exact absurd (Word.isWord_iff.mpr h) hw
  | _ => simp [word?]

theorem word?_eq_some {v : Json} {n : Int} (h : word? v = some n) : 0 ≤ n ∧ n ≤ 65535 :=
  (word?_eq_some_iff.mp h).2

theorem wordsFrom_eq_ok {index : Nat} {items : List Json} {ns : List Int}
    (h : wordsFrom index items = .ok ns) :
    ns.length = items.length ∧ ∀ v ∈ ns, 0 ≤ v ∧ v ≤ 65535 := by
  induction items generalizing index ns with
  | nil =>
    cases h
    exact ⟨rfl, by simp⟩
  | cons item items ih =>
    rw [wordsFrom] at h
    cases hw : word? item with
    | none => simp [hw] at h
    | some n =>
      cases hr : wordsFrom (index + 1) items with
      | error flaw => simp [hw, hr, Except.map] at h
      | ok rest =>
        simp only [hw, hr, Except.map, Except.ok.injEq] at h
        obtain ⟨hlen, hrange⟩ := ih hr
        subst h
        refine ⟨by simp [hlen], ?_⟩
        intro v hv
        rcases List.mem_cons.mp hv with rfl | hv
        · exact word?_eq_some hw
        · exact hrange v hv

variable {channels : Nat}

theorem exceeds_int (count : Int) (items : List Json) :
    exceeds (.int count) items = .ok (decide (count < items.length)) := by
  have h : exceeds (.int count) items =
      .ok (Json.Relation.greater.admits (Ord.compare (items.length : Int) count)) := rfl
  rw [h]
  by_cases hlt : count < items.length
  · have hc : Ord.compare (items.length : Int) count = .gt := Int.compare_eq_gt.mpr hlt
    simp [hc, hlt, Json.Relation.admits]
  · have hc : Ord.compare (items.length : Int) count ≠ .gt := by
      rwa [ne_eq, Int.compare_eq_gt]
    simp [hc, hlt, Json.Relation.admits]

theorem exceeds_ofNat (items : List Json) :
    exceeds (.int channels) items = .ok (decide (channels < items.length)) := by
  simp only [exceeds_int, Int.ofNat_lt]

theorem overfull_ofNat (count : Nat) :
    overfull (.int count) = .ok (.tooManyTargets (Text.ofInt count)) := by
  rw [overfull, if_neg (Int.not_lt.mpr (Int.natCast_nonneg count))]

theorem overfull_of_negative {count : Int} (h : count < 0) :
    overfull (.int count) =
      (Numeral.checkShort [count]).map fun _ => .tooManyTargets (Text.ofInt count) := by
  rw [overfull, if_pos h, ← bind_ok_eq_map]

variable [Memory]

/-- The targets of a payload are words, and no more than the channels. -/
theorem targetsOf_fits (h : (channels : Int) < Memory.items) (members : Json.Members) :
    ∃ result, targetsOf (.int channels) members = .ok result ∧
      ∀ targets, result = .ok targets →
        targets.length ≤ channels ∧ ∀ v ∈ targets, 0 ≤ v ∧ v ≤ 65535 := by
  rw [targetsOf]
  split
  · have hcount : countOf (.int channels) ‹Text› = .ok channels := targetCount_ofNat h
    refine ⟨.ok (targetsOfText channels ‹Text›), by rw [hcount]; rfl, ?_⟩
    intro targets ht
    cases ht
    exact ⟨Nat.le_of_eq (length_targetsOfText _ _), fun v hv => mem_targetsOfText hv⟩
  · next items _ =>
    rw [exceeds_ofNat]
    by_cases hlt : channels < items.length
    · refine ⟨.error (.tooManyTargets (Text.ofInt channels)), ?_, by simp⟩
      simp only [hlt, decide_true, bind, Except.bind, if_true, overfull_ofNat]
    · refine ⟨wordsFrom 0 items, by simp [hlt, bind, Except.bind], ?_⟩
      intro targets ht
      obtain ⟨hlen, hrange⟩ := wordsFrom_eq_ok ht
      exact ⟨by omega, hrange⟩
  · exact ⟨_, rfl, by simp⟩

/-- A payload is refused, or becomes a frame that fits the device. -/
theorem ofPayloadOr_fits (h : (channels : Int) < Memory.items) (name : Text) (payload : Json) :
    ∃ result, ofPayloadOr (.ok name) (.int channels) payload = .ok result ∧
      ∀ f, result = .ok f → f.Fits channels := by
  cases payload with
  | object members =>
    have hname : ∃ given, nameOf (.ok name) members = .ok given := by
      rw [nameOf]
      split_ifs <;> exact ⟨_, rfl⟩
    obtain ⟨given, hgiven⟩ := hname
    rw [ofPayloadOr, hgiven]
    cases hd : (Json.member? "duration_ms" members).bind word? with
    | none => exact ⟨.error .duration, rfl, by simp⟩
    | some duration =>
      obtain ⟨result, hresult, htargets⟩ := targetsOf_fits h members
      refine ⟨result.map fun targets => ⟨given, duration, targets⟩, ?_, ?_⟩
      · simp only [bind, Except.bind, hresult]
      · intro f hf
        cases result with
        | error flaw => simp [Except.map] at hf
        | ok targets =>
          cases hf
          obtain ⟨v, _, hv⟩ := Option.bind_eq_some_iff.mp hd
          obtain ⟨hlen, hrange⟩ := htargets targets rfl
          exact ⟨⟨word?_eq_some hv, hrange⟩, hlen⟩
  | _ => exact ⟨.error .notObject, rfl, by simp⟩

end Frame

namespace Sequence

variable [Memory] {channels : Nat}

theorem framesFrom_fits (h : (channels : Int) < Memory.items) (index : Nat) (items : List Json) :
    ∃ result, framesFrom (.int channels) index items = .ok result ∧
      ∀ frames, result = .ok frames → ∀ f ∈ frames, f.Fits channels := by
  induction items generalizing index with
  | nil =>
    refine ⟨.ok [], rfl, ?_⟩
    intro frames hf
    cases hf
    simp
  | cons item items ih =>
    obtain ⟨first, hfirst, hfits⟩ := Frame.ofPayloadOr_fits h (Frame.placeName index) item
    rw [framesFrom, hfirst]
    cases first with
    | error flaw => exact ⟨.error (.frame index flaw), rfl, by simp⟩
    | ok f =>
      obtain ⟨rest, hrest, hall⟩ := ih (index + 1)
      refine ⟨rest.map (f :: ·), by simp only [bind, Except.bind, hrest], ?_⟩
      intro frames hf
      cases rest with
      | error flaw => simp [Except.map] at hf
      | ok others =>
        cases hf
        intro g hg
        rcases List.mem_cons.mp hg with rfl | hg
        · exact hfits g rfl
        · exact hall others rfl g hg

/-- A payload is refused, or becomes a sequence whose frames fit the device. -/
theorem ofPayload_fits (h : (channels : Int) < Memory.items) (payload : Json) :
    ∃ result, ofPayload (.int channels) payload = .ok result ∧
      ∀ s, result = .ok s → ∀ f ∈ s.frames, f.Fits channels := by
  cases payload with
  | object members =>
    simp only [ofPayload]
    split_ifs with hname
    · exact ⟨.error .name, rfl, by simp⟩
    · split
      · next items _ =>
        obtain ⟨result, hresult, hall⟩ := framesFrom_fits h 0 items
        refine ⟨result.map fun frames => ⟨Frame.givenName members, frames⟩, ?_, ?_⟩
        · simp only [bind, Except.bind, hresult]
        · intro s hs
          cases result with
          | error flaw => simp [Except.map] at hs
          | ok frames =>
            cases hs
            exact hall frames rfl
      · exact ⟨.error .framesKind, rfl, by simp⟩
  | _ => exact ⟨.error .notObject, rfl, by simp⟩

end Sequence

end ServoScript
