import Mathlib.Data.List.Pairwise
import Mathlib.Tactic.SplitIfs
import ServoScript.ChannelTable
import ServoScript.Proofs.Token

/-!
# What a configuration says of its channels

Every configuration has a table, whatever its members are. Each channel of the table has a name and a mode,
and the enabled channels are those whose entries do not ask for another use than that of a servo. Entries of
further channels do not matter.
-/

namespace ServoScript

/-! ### Texts of given values -/

namespace Binary64

theorem pointed_ne_nil (digits : Text) (whole : Int) : pointed digits whole ≠ [] := by
  unfold pointed
  split
  · exact List.cons_ne_nil _ _
  · exact List.append_ne_nil_of_right_ne_nil _ (List.cons_ne_nil _ _)
  · exact List.cons_ne_nil _ _

theorem decimal_ne_nil (layout : Layout) (digits : Text) (exponent : Int) :
    layout.decimal digits exponent ≠ [] := by
  simp only [Layout.decimal]
  split
  · exact pointed_ne_nil _ _
  · cases digits with
    | nil => exact List.cons_ne_nil _ _
    | cons first rest => cases rest <;> exact List.cons_ne_nil _ _

theorem text_ne_nil (x : Binary64) : x.text ≠ [] := by
  unfold text
  split
  · exact List.append_ne_nil_of_right_ne_nil _ (List.cons_ne_nil _ _)
  · split
    exact List.append_ne_nil_of_right_ne_nil _ (decimal_ne_nil _ _ _)
  · exact List.append_ne_nil_of_right_ne_nil _ (List.cons_ne_nil _ _)
  · exact List.cons_ne_nil _ _

end Binary64

/-- The only value without a text is the empty text, and it is not given. -/
theorem Json.toText_ne_nil {v : Json} (h : v.isGiven = true) : v.toText ≠ [] := by
  cases v with
  | null => cases h
  | bool b => cases b <;> exact List.cons_ne_nil _ _
  | int n => exact Text.ofInt_ne_nil n
  | float x => exact x.text_ne_nil
  | text t => simpa [Json.isGiven, Json.toText] using h
  | list items => exact List.cons_ne_nil _ _
  | object members => exact List.cons_ne_nil _ _

/-! ### Modes -/

namespace Mode

/-- What an entry has for the mode of its channel, as it is compared with the names of modes. -/
def asked (entry : Json.Members) : Text :=
  normalize (((Json.member? "mode" entry).map Json.toText).getD "servo")

theorem ofEntry_eq (entry : Json.Members) :
    ofEntry entry = (all.find? fun mode => mode.label == asked entry).getD .servo := by
  cases hm : Json.member? "mode" entry with
  | none =>
    have hservo : normalize "servo" = "servo" := by decide
    simp only [ofEntry, asked, hm, Option.map_none, Option.getD_none, hservo]
    rfl
  | some v => simp only [ofEntry, asked, hm, Option.map_some, Option.getD_some, ofText]

/-- A channel drives a servo unless its entry says that it is an output or an input. -/
theorem isServo_ofEntry_iff (entry : Json.Members) :
    (ofEntry entry).isServo = true ↔ asked entry ≠ "output" ∧ asked entry ≠ "input" := by
  rw [ofEntry_eq]
  cases hfind : all.find? fun mode => mode.label == asked entry with
  | none =>
    have hlabel := List.find?_eq_none.mp hfind
    have hne : ∀ mode ∈ all, asked entry ≠ mode.label := fun mode hmode heq =>
      hlabel mode hmode (by rw [heq]; exact beq_self_eq_true _)
    -- A text that names no mode means a servo.
    exact iff_of_true rfl ⟨hne .output (by decide), hne .input (by decide)⟩
  | some mode =>
    have hlabel : mode.label = asked entry := by simpa using List.find?_some hfind
    rw [← hlabel]
    cases mode <;> decide

theorem label_mem (mode : Mode) :
    mode.label ∈ (["servo", "servo_multiplied", "output", "input"] : List Text) := by
  cases mode <;> decide

end Mode

/-! ### Tables -/

namespace ChannelTable

/-- A configuration asks for the number of channels that its member stands for, or for six, if there is no
such member or it stands for no integer. -/
def Asks (config : Json.Members) (n : Int) : Prop :=
  (∃ v, Json.member? "servo_count" config = some v ∧ v.toInt = .ok n) ∨
    n = 6 ∧ ∀ v m, Json.member? "servo_count" config = some v → v.toInt ≠ .ok m

theorem exists_asks (config : Json.Members) :
    ∃ n, Asks config n ∧ (sizeOf config : Int) = max 1 (min 24 n) := by
  have hclamp : ∀ n : Int, ((Word.clamp 1 maxSize n).toNat : Int) = max 1 (min 24 n) := by
    intro n
    simp only [Word.clamp, maxSize]
    omega
  cases hv : Json.member? "servo_count" config with
  | none =>
    refine ⟨6, Or.inr ⟨rfl, fun v m h => ?_⟩, ?_⟩
    · rw [hv] at h
      cases h
    · simp only [sizeOf, hv, Option.map_none]
      exact hclamp 6
  | some v =>
    cases hn : v.toInt with
    | ok n =>
      refine ⟨n, Or.inl ⟨v, hv, hn⟩, ?_⟩
      simp only [sizeOf, hv, Option.map_some, hn]
      exact hclamp n
    | error fault =>
      refine ⟨6, Or.inr ⟨rfl, fun w m h => ?_⟩, ?_⟩
      · rw [hv] at h
        cases h
        rw [hn]
        exact fun h => by cases h
      · simp only [sizeOf, hv, Option.map_some, hn]
        exact hclamp 6

theorem sizeOf_range (config : Json.Members) : 1 ≤ sizeOf config ∧ sizeOf config ≤ 24 := by
  obtain ⟨n, _, hsize⟩ := exists_asks config
  omega

theorem size_ofConfig (config : Json.Members) : (ofConfig config).size = sizeOf config := by
  simp [size, ofConfig]

theorem enabled_ascending (t : ChannelTable) : t.enabled.Pairwise (· < ·) := by
  rw [enabled, List.pairwise_map]
  have hrange : (List.range t.size).Pairwise (· < ·) := List.pairwise_lt_range
  exact (hrange.filter t.drives).imp (fun h => Int.ofNat_lt.mpr h)

theorem enabled_within {t : ChannelTable} {channel : Int} (h : channel ∈ t.enabled) :
    0 ≤ channel ∧ channel < t.size := by
  obtain ⟨number, hn, rfl⟩ := List.mem_map.mp h
  have hlt : number < t.size := List.mem_range.mp (List.mem_filter.mp hn).1
  exact ⟨Int.natCast_nonneg number, Int.ofNat_lt.mpr hlt⟩

theorem isSome_channel? (t : ChannelTable) (number : Int) :
    (t.channel? number).isSome ↔ 0 ≤ number ∧ number < t.size := by
  cases number with
  | ofNat n =>
    have hlt : (0 ≤ Int.ofNat n ∧ Int.ofNat n < t.size) ↔ n < t.size := by
      rw [Int.ofNat_eq_natCast]
      omega
    rw [hlt]
    simp [channel?, size]
  | negSucc n => simp [channel?]

theorem isSome_name? (t : ChannelTable) (number : Int) :
    (t.name? number).isSome ↔ 0 ≤ number ∧ number < t.size := by
  rw [name?, Option.isSome_map, isSome_channel?]

theorem isSome_mode? (t : ChannelTable) (number : Int) :
    (t.mode? number).isSome ↔ 0 ≤ number ∧ number < t.size := by
  rw [mode?, Option.isSome_map, isSome_channel?]

theorem mem_enabled_iff {t : ChannelTable} {number : Int} :
    number ∈ t.enabled ↔ ∃ channel, t.channel? number = some channel ∧ channel.mode.isServo = true := by
  have hdrives : ∀ n : Nat, t.drives n = true ↔
      ∃ channel, t.channel? n = some channel ∧ channel.mode.isServo = true := by
    intro n
    rw [drives, mode?, Option.any_map, Option.any_eq_true]
  constructor
  · intro h
    obtain ⟨n, hn, rfl⟩ := List.mem_map.mp h
    exact (hdrives n).mp (List.mem_filter.mp hn).2
  · rintro ⟨channel, hchannel, hservo⟩
    have hsome : (t.channel? number).isSome := by
      rw [hchannel]
      rfl
    obtain ⟨hle, hlt⟩ := (isSome_channel? t number).mp hsome
    obtain ⟨n, rfl⟩ := Int.eq_ofNat_of_zero_le hle
    have hrange : n ∈ List.range t.size := List.mem_range.mpr (Int.ofNat_lt.mp hlt)
    exact List.mem_map.mpr
      ⟨n, List.mem_filter.mpr ⟨hrange, (hdrives n).mpr ⟨channel, hchannel, hservo⟩⟩, rfl⟩

/-! ### Entries -/

variable {config : Json.Members} {n : Nat}

/-- The configuration lists an object for a channel. -/
def HasEntry (config : Json.Members) (n : Nat) (entry : Json.Members) : Prop :=
  ∃ items, Json.member? "channels" config = some (.list items) ∧ items[n]? = some (.object entry)

theorem entryAt_of_hasEntry {entry : Json.Members} (h : HasEntry config n entry) :
    entryAt (entriesOf config) n = entry := by
  obtain ⟨items, hitems, hentry⟩ := h
  simp only [entriesOf, hitems, entryAt, hentry]

theorem entryAt_of_not_hasEntry (h : ∀ entry, ¬ HasEntry config n entry) :
    entryAt (entriesOf config) n = [] := by
  unfold entryAt
  split
  · next entry hentry =>
    refine absurd ⟨entriesOf config, ?_, hentry⟩ (h entry)
    unfold entriesOf at hentry ⊢
    split
    · next items hitems => exact hitems
    · next hnot =>
      split at hentry
      · next items hitems => exact absurd hitems (hnot items)
      · cases hentry
  · rfl

theorem channel?_ofConfig_eq_some_iff {number : Int} {channel : Channel} :
    (ofConfig config).channel? number = some channel ↔
      ∃ n : Nat, number = n ∧ n < sizeOf config ∧
        channelOf n (entryAt (entriesOf config) n) = channel := by
  have hget : ∀ n : Nat, (ofConfig config).channel? n =
      ((List.range (sizeOf config))[n]?).map fun m => channelOf m (entryAt (entriesOf config) m) :=
    fun n => List.getElem?_map
  constructor
  · intro h
    have hsome : ((ofConfig config).channel? number).isSome := by rw [h]; rfl
    rw [isSome_channel?, size_ofConfig] at hsome
    obtain ⟨n, rfl⟩ := Int.eq_ofNat_of_zero_le hsome.1
    have hlt : n < sizeOf config := Int.ofNat_lt.mp hsome.2
    rw [hget, List.getElem?_range hlt] at h
    exact ⟨n, rfl, hlt, Option.some.inj h⟩
  · rintro ⟨n, rfl, hlt, rfl⟩
    rw [hget, List.getElem?_range hlt]
    rfl

theorem name_ne_nil (number : Nat) (entry : Json.Members) : (channelOf number entry).name ≠ [] := by
  simp only [channelOf]
  split
  · split_ifs with hgiven
    · exact Json.toText_ne_nil hgiven
    · exact List.cons_ne_nil _ _
  · exact List.cons_ne_nil _ _

/-- A channel is enabled unless it has an entry that says that it is an output or an input. -/
theorem mem_enabled_ofConfig_iff {number : Int} :
    number ∈ (ofConfig config).enabled ↔
      (0 ≤ number ∧ number < sizeOf config) ∧
        ∀ entry, HasEntry config number.toNat entry →
          Mode.asked entry ≠ "output" ∧ Mode.asked entry ≠ "input" := by
  have hservo : ∀ n : Nat, (channelOf n (entryAt (entriesOf config) n)).mode.isServo = true ↔
      ∀ entry, HasEntry config n entry → Mode.asked entry ≠ "output" ∧ Mode.asked entry ≠ "input" := by
    intro n
    have hmode : (channelOf n (entryAt (entriesOf config) n)).mode.isServo = true ↔
        Mode.asked (entryAt (entriesOf config) n) ≠ "output" ∧
          Mode.asked (entryAt (entriesOf config) n) ≠ "input" := Mode.isServo_ofEntry_iff _
    rw [hmode]
    by_cases hentry : ∃ entry, HasEntry config n entry
    · constructor
      · intro h entry hentry
        rwa [entryAt_of_hasEntry hentry] at h
      · intro h
        obtain ⟨entry, hentry⟩ := hentry
        rw [entryAt_of_hasEntry hentry]
        exact h entry hentry
    -- Without an object the entry is empty, and its mode is that of a servo.
    · have hnone : ∀ entry, ¬ HasEntry config n entry := fun entry h => hentry ⟨entry, h⟩
      rw [entryAt_of_not_hasEntry hnone]
      exact iff_of_true (by decide) fun entry h => absurd h (hnone entry)
  rw [mem_enabled_iff]
  constructor
  · rintro ⟨channel, hchannel, h⟩
    obtain ⟨n, rfl, hlt, rfl⟩ := channel?_ofConfig_eq_some_iff.mp hchannel
    exact ⟨⟨Int.natCast_nonneg n, Int.ofNat_lt.mpr hlt⟩, (hservo n).mp h⟩
  · rintro ⟨⟨hle, hlt⟩, h⟩
    obtain ⟨n, rfl⟩ := Int.eq_ofNat_of_zero_le hle
    exact ⟨_, channel?_ofConfig_eq_some_iff.mpr ⟨n, rfl, Int.ofNat_lt.mp hlt, rfl⟩, (hservo n).mpr h⟩

/-- Only the number of channels and the entries of these channels matter. -/
theorem ofConfig_congr {config' : Json.Members}
    (hcount : Json.member? "servo_count" config' = Json.member? "servo_count" config)
    (hentries : (entriesOf config').take (sizeOf config) = (entriesOf config).take (sizeOf config)) :
    ofConfig config' = ofConfig config := by
  have hsize : sizeOf config' = sizeOf config := by simp only [sizeOf, hcount]
  have hentry : ∀ n < sizeOf config, entryAt (entriesOf config') n = entryAt (entriesOf config) n := by
    intro n hn
    have hget : (entriesOf config')[n]? = (entriesOf config)[n]? := by
      rw [← List.getElem?_take_of_lt hn, hentries, List.getElem?_take_of_lt hn]
    rw [entryAt, entryAt, hget]
  simp only [ofConfig, hsize]
  congr 1
  apply List.map_congr_left
  intro n hn
  rw [hentry n (List.mem_range.mp hn)]

/-- Every configuration has a table of one to 24 channels, as many as it asks for within these bounds. It has
a name that is not empty and a mode for each of them and for no other. The enabled channels are in ascending
order, and they are those without an entry that says that they are an output or an input. No entry of a
further channel makes a difference. -/
theorem ofJson_object (config : Json.Members) : ∃ t, ofJson (.object config) = .ok t ∧
    (1 ≤ t.size ∧ t.size ≤ 24) ∧
    (∃ n, Asks config n ∧ (t.size : Int) = max 1 (min 24 n)) ∧
    (∀ number, (t.name? number).isSome ↔ 0 ≤ number ∧ number < t.size) ∧
    (∀ number, (t.mode? number).isSome ↔ 0 ≤ number ∧ number < t.size) ∧
    (∀ number name, t.name? number = some name → name ≠ []) ∧
    (∀ number mode, t.mode? number = some mode →
      mode.label ∈ (["servo", "servo_multiplied", "output", "input"] : List Text)) ∧
    t.enabled.Pairwise (· < ·) ∧
    (∀ number, number ∈ t.enabled ↔
      (0 ≤ number ∧ number < t.size) ∧
        ∀ entry, HasEntry config number.toNat entry →
          Mode.asked entry ≠ "output" ∧ Mode.asked entry ≠ "input") ∧
    (∀ config' items items',
      Json.member? "servo_count" config' = Json.member? "servo_count" config →
      Json.member? "channels" config = some (.list items) →
      Json.member? "channels" config' = some (.list items') →
      items'.take t.size = items.take t.size →
      ofJson (.object config') = .ok t) := by
  refine ⟨ofConfig config, rfl, ?_, ?_, isSome_name? _, isSome_mode? _, ?_, fun _ mode _ => mode.label_mem,
    enabled_ascending _, ?_, ?_⟩
  · rw [size_ofConfig]
    exact sizeOf_range config
  · rw [size_ofConfig]
    exact exists_asks config
  · intro number name hname
    rw [name?] at hname
    obtain ⟨channel, hchannel, rfl⟩ := Option.map_eq_some_iff.mp hname
    obtain ⟨n, _, _, rfl⟩ := channel?_ofConfig_eq_some_iff.mp hchannel
    exact name_ne_nil n _
  · intro number
    rw [size_ofConfig, mem_enabled_ofConfig_iff]
  · intro config' items items' hcount hitems hitems' htake
    have hentries : (entriesOf config').take (sizeOf config) = (entriesOf config).take (sizeOf config) := by
      rw [← size_ofConfig]
      simpa only [entriesOf, hitems, hitems'] using htake
    exact congrArg Except.ok (ofConfig_congr hcount hentries)

/-- Two channels are asked for by a text, the first is an output by another spelling, the second has neither
a name nor a known mode, and the third does not matter. -/
theorem ofJson_object_pair : ∃ t,
    ofJson (.object [("servo_count", .text " 2\n"), ("channels", .list [.object [("mode", .text "OutPut\t")],
      .object [("mode", .list []), ("name", .text "")], .object [("mode", .text "input")]])]) = .ok t ∧
    t.size = 2 ∧ 0 ∉ t.enabled ∧ 1 ∈ t.enabled ∧ 2 ∉ t.enabled ∧
    ofJson (.object [("channels", .list [.object [("mode", .text "OutPut\t")],
      .object [("mode", .list []), ("name", .text "")]]), ("servo_count", .text " 2\n")]) = .ok t := by
  obtain ⟨t, ht, _, _, _, _, _, _, _, henabled, hsame⟩ := ofJson_object
    [("servo_count", .text " 2\n"), ("channels", .list [.object [("mode", .text "OutPut\t")],
      .object [("mode", .list []), ("name", .text "")], .object [("mode", .text "input")]])]
  have hsize : t.size = 2 := by
    rw [← Except.ok.inj ht]
    rfl
  refine ⟨t, ht, hsize, ?_, ?_, ?_, hsame _ _ _ rfl rfl rfl (by rw [hsize]; rfl)⟩
  · intro h
    exact (((henabled 0).mp h).2 _ ⟨_, rfl, rfl⟩).1 (by decide)
  · refine (henabled 1).mpr ⟨by rw [hsize]; decide, ?_⟩
    rintro entry ⟨items, hitems, hentry⟩
    cases hitems
    cases hentry
    decide
  · intro h
    have hlt := ((henabled 2).mp h).1.2
    rw [hsize] at hlt
    exact absurd hlt (by decide)

end ChannelTable

end ServoScript
