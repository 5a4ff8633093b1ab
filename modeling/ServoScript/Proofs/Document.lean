import ServoScript.Proofs.Readable
import ServoScript.Proofs.WrittenNumber
import ServoScript.Proofs.WrittenText

/-!
# Written documents are read back

A document that can come from reading is read back from the text that it is written as.
-/

namespace ServoScript.Json

/-! ### Layout -/

/-- A layout that consists of space, with a colon behind keys. -/
structure Style.Spaced (style : Style) : Prop where
  newline : ∀ depth, ∀ c ∈ style.newline depth, isSpace c = true
  colon : ∃ gap : Text, style.colon = CodePoint.char ':' :: gap ∧ ∀ c ∈ gap, isSpace c = true

theorem Style.spaced_spread : Style.Spaced .spread where
  newline := by simp [Style.spread, isSpace]
  colon := ⟨[' '], rfl, by simp [isSpace]⟩

/-- The characters that a written number or word starts with. -/
def isScalarStart (c : CodePoint) : Bool :=
  Text.isDigit c || c == '-' || c == 'n' || c == 't' || c == 'f' || c == 'N' || c == 'I'

def isOpening (c : CodePoint) : Bool :=
  isScalarStart c || c == '"' || c == '[' || c == '\x7b'

theorem isSpace_of_isOpening {c : CodePoint} (h : isOpening c = true) : isSpace c = false := by
  cases hc : isSpace c with
  | false => rfl
  | true =>
    simp only [isSpace, Bool.or_eq_true, beq_iff_eq] at hc
    obtain ((rfl | rfl) | rfl) | rfl := hc <;> exact absurd h (by decide)

theorem skipSpace_gap {gap : Text} (h : ∀ c ∈ gap, isSpace c = true) {c : CodePoint}
    (hc : isSpace c = false) (t : Text) : skipSpace (gap ++ c :: t) = c :: t := by
  rw [skipSpace, List.dropWhile_append_of_pos h]
  simp [hc]

/-- A value starts with the first character of the text. -/
def Opens (t : Text) : Prop :=
  ∃ c u, t = c :: u ∧ isOpening c = true

theorem Opens.append {t : Text} (h : Opens t) (rest : Text) : Opens (t ++ rest) := by
  obtain ⟨c, u, rfl, hc⟩ := h
  exact ⟨c, u ++ rest, rfl, hc⟩

theorem Opens.skipSpace_eq {t : Text} (h : Opens t) {gap : Text}
    (hgap : ∀ c ∈ gap, isSpace c = true) : skipSpace (gap ++ t) = t := by
  obtain ⟨c, u, rfl, hc⟩ := h
  exact skipSpace_gap hgap (isSpace_of_isOpening hc) u

theorem Opens.skipSpace_self {t : Text} (h : Opens t) : skipSpace t = t := by
  simpa using h.skipSpace_eq (List.forall_mem_nil _)

theorem endsNumber_append {gap : Text} (h : ∀ c ∈ gap, isSpace c = true) {t : Text}
    (ht : EndsNumber t) : EndsNumber (gap ++ t) := by
  cases gap with
  | nil => exact ht
  | cons d gap =>
    have hd := h d (by simp)
    simp only [isSpace, Bool.or_eq_true, beq_iff_eq] at hd
    simp only [EndsNumber, List.cons_append, List.head?_cons, Option.mem_def, Option.some.injEq]
    rintro _ rfl
    obtain ((rfl | rfl) | rfl) | rfl := hd <;> decide

theorem exists_signed_eq_cons (negative : Bool) {t : Text}
    (ht : ∃ c u, t = c :: u ∧ Text.isDigit c = true) :
    ∃ c u, signText negative ++ t = c :: u ∧ isScalarStart c = true := by
  obtain ⟨c, u, rfl, hc⟩ := ht
  cases negative with
  | true => exact ⟨'-', _, rfl, rfl⟩
  | false => exact ⟨c, u, rfl, by simp [isScalarStart, hc]⟩

theorem exists_ofInt_eq_cons (n : Int) : ∃ c u, Text.ofInt n = c :: u ∧ isScalarStart c = true := by
  cases n with
  | ofNat k => exact exists_signed_eq_cons false (isWhole_ofNat k).exists_cons
  | negSucc k => exact exists_signed_eq_cons true (isWhole_ofNat (k + 1)).exists_cons

theorem exists_writtenFloat_eq_cons {x : Binary64} (h : x.IsRounded) :
    ∃ c u, writtenFloat x = c :: u ∧ isScalarStart c = true := by
  cases x with
  | finite negative significand scale =>
    obtain ⟨t, n, k, ht, -, htext⟩ := Binary64.text_finite h negative
    change ∃ c u, (Binary64.finite negative significand scale).text = c :: u ∧ _
    rw [htext]
    exact exists_signed_eq_cons negative ht.exists_cons
  | infinite negative => cases negative <;> exact ⟨_, _, rfl, rfl⟩
  | undefined => exact ⟨_, _, rfl, rfl⟩

theorem opens_enclosed (style : Style) (depth : Nat) {left : CodePoint} (h : isOpening left = true)
    (right : CodePoint) (parts : List Text) : Opens (style.enclosed depth left right parts) := by
  rw [Style.enclosed]
  split <;> exact ⟨left, _, rfl, h⟩

/-! ### Reading -/

/-- A value is read back wherever it is written, with one unit of fuel for each of its characters. -/
structure ReadsBack (style : Style) (v : Json) : Prop where
  opens : ∀ depth, Opens (write style depth v)
  read : ∀ depth fuel rest, (write style depth v).length ≤ fuel → EndsNumber rest →
    readValue fuel (write style depth v ++ rest) = .ok (v, rest)

theorem readValue_scalar {c : CodePoint} (h : isScalarStart c = true) (fuel : Nat) (t : Text) :
    readValue (fuel + 1) (c :: t) = readScalar (c :: t) := by
  have hne (d : CodePoint) (hd : isScalarStart d = false) : c ≠ d := by
    rintro rfl
    simp [h] at hd
  rw [readValue]
  · exact fun rest heq => hne '"' rfl (List.cons.inj heq).1
  · exact fun rest heq => hne '[' rfl (List.cons.inj heq).1
  · exact fun rest heq => hne '\x7b' rfl (List.cons.inj heq).1

variable {style : Style} {depth : Nat}

theorem intercalate_comma (line part next : Text) (parts : List Text) :
    List.intercalate (CodePoint.char ',' :: line) (part :: next :: parts) =
      part ++ CodePoint.char ',' :: (line ++ List.intercalate (CodePoint.char ',' :: line) (next :: parts)) := by
  rw [List.intercalate_cons_cons]
  simp

theorem Opens.intercalate {part : Text} (h : Opens part) (line : Text) (parts : List Text) :
    Opens (List.intercalate (CodePoint.char ',' :: line) (part :: parts)) := by
  cases parts with
  | nil => simpa using h
  | cons next parts =>
    rw [intercalate_comma]
    exact h.append _

theorem writeItems_eq_map (items : List Json) :
    writeItems style depth items = items.map (write style depth) := by
  induction items with
  | nil => rfl
  | cons item rest ih => rw [writeItems, ih, List.map_cons]

theorem readItems_written {line gap : Text} (hline : ∀ c ∈ line, isSpace c = true)
    (hgap : ∀ c ∈ gap, isSpace c = true) (item : Json) (items : List Json)
    (h : ∀ v ∈ item :: items, ReadsBack style v) (done : List Json) (rest : Text) (fuel : Nat)
    (hfuel : (List.intercalate (CodePoint.char ',' :: line)
      ((item :: items).map (write style depth))).length < fuel) :
    readItems fuel done (List.intercalate (CodePoint.char ',' :: line)
        ((item :: items).map (write style depth)) ++
      (gap ++ CodePoint.char ']' :: rest)) = .ok (.list (done.reverse ++ item :: items), rest) := by
  -- The first item stands apart, since only the others have a comma before them.
  induction items generalizing item done fuel with
  | nil =>
    obtain ⟨fuel, rfl⟩ := Nat.exists_eq_add_one_of_ne_zero (Nat.ne_zero_of_lt hfuel)
    simp only [List.map_cons, List.map_nil, List.intercalate_singleton] at hfuel ⊢
    have hend : EndsNumber (gap ++ CodePoint.char ']' :: rest) :=
      endsNumber_append hgap (by simp [EndsNumber, Text.isDigit])
    rw [readItems, (h item (by simp)).read depth fuel _ (by omega) hend]
    dsimp only
    rw [skipSpace_gap hgap rfl]
    simp
  | cons next items ih =>
    obtain ⟨fuel, rfl⟩ := Nat.exists_eq_add_one_of_ne_zero (Nat.ne_zero_of_lt hfuel)
    have hnext := ih next (fun v hv => h v (List.mem_cons_of_mem item hv)) (item :: done) fuel
    have hopens := (((h next (by simp)).opens depth).intercalate line
      (items.map (write style depth))).append (gap ++ CodePoint.char ']' :: rest)
    simp only [List.map_cons] at hnext hfuel ⊢
    rw [intercalate_comma] at hfuel ⊢
    simp only [List.length_append, List.length_cons] at hfuel
    simp only [List.append_assoc, List.cons_append]
    rw [readItems, (h item (by simp)).read depth fuel _ (by omega)
      (by simp [EndsNumber, Text.isDigit])]
    dsimp only
    change readItems fuel (item :: done) (skipSpace (line ++ _)) = _
    rw [hopens.skipSpace_eq hline, hnext (by omega)]
    simp

def readMore (fuel : Nat) (done : Members) (rest : Text) : Reading Json :=
  match skipSpace rest with
  | '\x7d' :: rest => .ok (.object done, rest)
  | ',' :: rest => readMembers fuel done (skipSpace rest)
  | rest => .error (.lack .comma rest)

theorem readMembers_member (hs : style.Spaced) {value : Json} (h : ReadsBack style value)
    {key : Text} (hkey : key.IsJoined) (done : Members) {rest : Text} (hr : EndsNumber rest) {fuel : Nat}
    (hfuel : (write style depth value).length ≤ fuel) :
    readMembers (fuel + 1) done
        (writtenText key ++ style.colon ++ write style depth value ++ rest) =
      readMore fuel (put key value done) rest := by
  obtain ⟨gap, hcolon, hgap⟩ := hs.colon
  have hopens := (h.opens depth).append rest
  have hskip : skipSpace (CodePoint.char ':' :: (gap ++ (write style depth value ++ rest))) =
      CodePoint.char ':' :: (gap ++ (write style depth value ++ rest)) := rfl
  rw [hcolon, writtenText]
  simp only [List.append_assoc, List.cons_append, List.nil_append]
  rw [readMembers, readText_writtenText hkey]
  simp only [hskip, hopens.skipSpace_eq hgap, h.read depth fuel rest hfuel hr]
  rfl

theorem put_of_not_mem {key : Text} {members : Members} (h : key ∉ members.map Prod.fst)
    (value : Json) : put key value members = members ++ [(key, value)] := by
  induction members with
  | nil => rfl
  | cons m rest ih =>
    simp only [List.map_cons, List.mem_cons, not_or] at h
    rw [put, if_neg (Ne.symm h.1), ih h.2]
    rfl

def writtenMember (style : Style) (depth : Nat) (m : Text × Json) : Text :=
  writtenText m.1 ++ style.colon ++ write style depth m.2

theorem opens_writtenMember (style : Style) (depth : Nat) (m : Text × Json) :
    Opens (writtenMember style depth m) :=
  ⟨_, _, rfl, rfl⟩

theorem writeMembers_eq_map (members : Members) :
    writeMembers style depth members = members.map (writtenMember style depth) := by
  induction members with
  | nil => rfl
  | cons m rest ih =>
    rw [writeMembers, ih]
    rfl

theorem not_mem_keys {m : Text × Json} {done members : Members}
    (h : ((done ++ m :: members).map Prod.fst).Nodup) : m.1 ∉ done.map Prod.fst := by
  rw [List.map_append, List.map_cons] at h
  exact fun hmem => (List.nodup_append.1 h).2.2 m.1 hmem m.1 (by simp) rfl

theorem readMembers_written (hs : style.Spaced) {line gap : Text}
    (hline : ∀ c ∈ line, isSpace c = true) (hgap : ∀ c ∈ gap, isSpace c = true)
    (m : Text × Json) (members : Members) (hjoined : ∀ m' ∈ m :: members, m'.1.IsJoined)
    (h : ∀ m' ∈ m :: members, ReadsBack style m'.2) (done : Members)
    (hnodup : ((done ++ m :: members).map Prod.fst).Nodup) (rest : Text) (fuel : Nat)
    (hfuel : (List.intercalate (CodePoint.char ',' :: line)
      ((m :: members).map (writtenMember style depth))).length < fuel) :
    readMembers fuel done (List.intercalate (CodePoint.char ',' :: line)
        ((m :: members).map (writtenMember style depth)) ++ (gap ++ CodePoint.char '\x7d' :: rest)) =
      .ok (.object (done ++ m :: members), rest) := by
  induction members generalizing m done fuel with
  | nil =>
    obtain ⟨fuel, rfl⟩ := Nat.exists_eq_add_one_of_ne_zero (Nat.ne_zero_of_lt hfuel)
    simp only [List.map_cons, List.map_nil, List.intercalate_singleton, writtenMember,
      List.length_append] at hfuel ⊢
    have hend : EndsNumber (gap ++ CodePoint.char '\x7d' :: rest) :=
      endsNumber_append hgap (by simp [EndsNumber, Text.isDigit])
    rw [readMembers_member hs (h m (by simp)) (hjoined m (by simp)) done hend (by omega), readMore,
      skipSpace_gap hgap rfl, put_of_not_mem (not_mem_keys hnodup)]
    rfl
  | cons next members ih =>
    obtain ⟨fuel, rfl⟩ := Nat.exists_eq_add_one_of_ne_zero (Nat.ne_zero_of_lt hfuel)
    have hnext := ih next (fun m' hm => hjoined m' (List.mem_cons_of_mem m hm))
      (fun m' hm => h m' (List.mem_cons_of_mem m hm)) (done ++ [m]) (by simpa using hnodup) fuel
    have hopens := ((opens_writtenMember style depth next).intercalate line
      (members.map (writtenMember style depth))).append (gap ++ CodePoint.char '\x7d' :: rest)
    simp only [List.map_cons] at hnext hfuel ⊢
    rw [intercalate_comma] at hfuel ⊢
    simp only [List.length_append, List.length_cons] at hfuel
    have hvalue : (write style depth m.2).length ≤ fuel := by
      rw [writtenMember, List.length_append] at hfuel
      omega
    -- A key that was not there yet goes to the end, so the members keep their order.
    rw [List.append_assoc, writtenMember, List.cons_append, readMembers_member hs (h m (by simp))
      (hjoined m (by simp)) done (by simp [EndsNumber, Text.isDigit]) hvalue]
    change readMembers fuel (put m.1 m.2 done) (skipSpace _) = _
    rw [List.append_assoc, hopens.skipSpace_eq hline, put_of_not_mem (not_mem_keys hnodup),
      hnext (by omega)]
    simp

theorem readsBack_scalar {v : Json}
    (hstart : ∀ depth, ∃ c u, write style depth v = c :: u ∧ isScalarStart c = true)
    (hread : ∀ depth rest, EndsNumber rest →
      readScalar (write style depth v ++ rest) = .ok (v, rest)) : ReadsBack style v := by
  constructor
  · intro depth
    obtain ⟨c, u, hu, hc⟩ := hstart depth
    exact ⟨c, u, hu, by simp [isOpening, hc]⟩
  intro depth fuel rest hfuel hr
  obtain ⟨c, u, hu, hc⟩ := hstart depth
  have hscalar := hread depth rest hr
  rw [hu] at hfuel hscalar ⊢
  obtain ⟨fuel, rfl⟩ := Nat.exists_eq_add_one_of_ne_zero (Nat.ne_zero_of_lt hfuel)
  rw [List.cons_append, readValue_scalar hc]
  exact hscalar

theorem readsBack_text {t : Text} (h : t.IsJoined) : ReadsBack style (.text t) := by
  refine ⟨fun _ => ⟨_, _, rfl, rfl⟩, ?_⟩
  intro depth fuel rest hfuel _
  rw [write, writtenText] at hfuel ⊢
  obtain ⟨fuel, rfl⟩ := Nat.exists_eq_add_one_of_ne_zero (Nat.ne_zero_of_lt hfuel)
  simp only [List.append_assoc, List.cons_append, List.nil_append]
  rw [readValue, readText_writtenText h]
  rfl

theorem enclosed_cons (style : Style) (depth : Nat) (left right : CodePoint) (part : Text)
    (parts : List Text) (rest : Text) :
    style.enclosed depth left right (part :: parts) ++ rest =
      left :: (style.newline (depth + 1) ++
        (List.intercalate (CodePoint.char ',' :: style.newline (depth + 1)) (part :: parts) ++
          (style.newline depth ++ right :: rest))) := by
  simp [Style.enclosed]

theorem length_lt_enclosed (style : Style) (depth : Nat) (left right : CodePoint) (part : Text)
    (parts : List Text) :
    (List.intercalate (CodePoint.char ',' :: style.newline (depth + 1)) (part :: parts)).length + 1 <
      (style.enclosed depth left right (part :: parts)).length := by
  simp only [Style.enclosed, List.isEmpty_cons, Bool.false_eq_true, if_false, List.length_append,
    List.length_cons, List.cons_append, List.length_nil]
  omega

theorem readValue_list {gap t : Text} (hgap : ∀ c ∈ gap, isSpace c = true) (h : Opens t) (fuel : Nat) :
    readValue (fuel + 1) (CodePoint.char '[' :: (gap ++ t)) = readItems fuel [] t := by
  rw [readValue, h.skipSpace_eq hgap]
  obtain ⟨c, u, rfl, hc⟩ := h
  have hne : c ≠ ']' := by
    rintro rfl
    exact absurd hc (by decide)
  simp [hne]

theorem readValue_object {gap t : Text} (hgap : ∀ c ∈ gap, isSpace c = true) (h : Opens t)
    (fuel : Nat) : readValue (fuel + 1) (CodePoint.char '\x7b' :: (gap ++ t)) = readMembers fuel [] t := by
  rw [readValue, h.skipSpace_eq hgap]
  obtain ⟨c, u, rfl, hc⟩ := h
  have hne : c ≠ '\x7d' := by
    rintro rfl
    exact absurd hc (by decide)
  simp [hne]

theorem readsBack_list (hs : style.Spaced) {items : List Json} (h : ∀ v ∈ items, ReadsBack style v) :
    ReadsBack style (.list items) := by
  refine ⟨fun depth => opens_enclosed style depth rfl ']' _, ?_⟩
  intro depth fuel rest hfuel _
  rw [write, writeItems_eq_map] at hfuel ⊢
  cases items with
  | nil =>
    obtain ⟨fuel, rfl⟩ := Nat.exists_eq_add_one_of_ne_zero (Nat.ne_zero_of_lt hfuel)
    rfl
  | cons item items =>
    have hopens := (((h item (by simp)).opens (depth + 1)).intercalate (style.newline (depth + 1))
      (items.map (write style (depth + 1)))).append (style.newline depth ++ CodePoint.char ']' :: rest)
    have hlength := length_lt_enclosed style depth '[' ']' (write style (depth + 1) item)
      (items.map (write style (depth + 1)))
    rw [List.map_cons] at hfuel ⊢
    obtain ⟨fuel, rfl⟩ := Nat.exists_eq_add_one_of_ne_zero
      (Nat.ne_zero_of_lt (Nat.lt_of_lt_of_le hlength hfuel))
    rw [enclosed_cons, readValue_list (hs.newline _) hopens, ← List.map_cons,
      readItems_written (hs.newline _) (hs.newline _) item items h [] rest fuel (by
        rw [List.map_cons]; omega)]
    rfl

theorem readsBack_object (hs : style.Spaced) {members : Members}
    (hnodup : (members.map Prod.fst).Nodup) (hjoined : ∀ m ∈ members, m.1.IsJoined)
    (h : ∀ m ∈ members, ReadsBack style m.2) : ReadsBack style (.object members) := by
  refine ⟨fun depth => opens_enclosed style depth rfl '\x7d' _, ?_⟩
  intro depth fuel rest hfuel _
  rw [write, writeMembers_eq_map] at hfuel ⊢
  cases members with
  | nil =>
    obtain ⟨fuel, rfl⟩ := Nat.exists_eq_add_one_of_ne_zero (Nat.ne_zero_of_lt hfuel)
    rfl
  | cons m members =>
    have hopens := ((opens_writtenMember style (depth + 1) m).intercalate (style.newline (depth + 1))
      (members.map (writtenMember style (depth + 1)))).append
        (style.newline depth ++ CodePoint.char '\x7d' :: rest)
    have hlength := length_lt_enclosed style depth '\x7b' '\x7d' (writtenMember style (depth + 1) m)
      (members.map (writtenMember style (depth + 1)))
    rw [List.map_cons] at hfuel ⊢
    obtain ⟨fuel, rfl⟩ := Nat.exists_eq_add_one_of_ne_zero
      (Nat.ne_zero_of_lt (Nat.lt_of_lt_of_le hlength hfuel))
    rw [enclosed_cons, readValue_object (hs.newline _) hopens, ← List.map_cons,
      readMembers_written hs (hs.newline _) (hs.newline _) m members hjoined h [] hnodup rest fuel (by
        rw [List.map_cons]; omega)]
    rfl

/-- A document that can come from reading is read back, wherever it is written. -/
theorem Readable.readsBack (hs : style.Spaced) {v : Json} (h : Readable v) : ReadsBack style v := by
  induction h with
  | null => exact readsBack_scalar (fun _ => ⟨_, _, rfl, rfl⟩) (fun _ _ _ => rfl)
  | bool b => cases b <;> exact readsBack_scalar (fun _ => ⟨_, _, rfl, rfl⟩) (fun _ _ _ => rfl)
  | int short =>
    exact readsBack_scalar (fun _ => exists_ofInt_eq_cons _) (fun _ _ hr => readScalar_ofInt
      (Text.length_ofNat_of_isShort short) hr)
  | float rounded =>
    exact readsBack_scalar (fun _ => exists_writtenFloat_eq_cons rounded)
      (fun _ _ hr => readScalar_writtenFloat rounded hr)
  | text joined => exact readsBack_text joined
  | list h ih => exact readsBack_list hs ih
  | object nodup joined h ih => exact readsBack_object hs nodup joined ih

/-- A spread document is read back. -/
theorem Readable.read_spread {v : Json} (h : Readable v) : read v.spread = .ok v := by
  have hback := h.readsBack Style.spaced_spread
  have hopens := hback.opens 0
  have hskip : skipSpace v.spread = v.spread := hopens.skipSpace_self
  have hmark : v.spread.head? ≠ some (CodePoint.char '\ufeff') := by
    obtain ⟨c, u, hu, hc⟩ := hopens
    rw [spread, hu]
    rintro ⟨⟩
    exact absurd hc (by decide)
  have hread := hback.read 0 (v.spread.length + 1) []
    (Nat.le_succ v.spread.length) (by simp [EndsNumber])
  rw [List.append_nil] at hread
  rw [read, if_neg hmark, hskip, spread]
  rw [spread] at hread
  rw [hread]
  rfl

end ServoScript.Json
