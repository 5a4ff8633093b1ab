import ServoScript.File
import ServoScript.Proofs.Document

/-!
# Documents in files

A spread document consists of ASCII characters without a carriage return, so that neither the encoding of
a file nor its line ends change the text. What is written to a file is therefore what is read from it.
-/

namespace ServoScript

namespace Json

theorem isPlain_of_isDigit {c : CodePoint} (h : Text.isDigit c = true) : isPlain c = true := by
  have hc := Text.isDigit_iff.1 h
  have hreturn : c ≠ '\r' := by
    rintro rfl
    exact absurd h (by decide)
  simp [isPlain, hreturn]
  omega

theorem isPlain_ofInt {n : Int} {c : CodePoint} (h : c ∈ Text.ofInt n) : isPlain c = true := by
  rcases Text.mem_ofInt h with hdigit | rfl
  · exact isPlain_of_isDigit hdigit
  · rfl

theorem IsWhole.isPlain {t : Text} (h : IsWhole t) {c : CodePoint} (hc : c ∈ t) : isPlain c = true := by
  cases h with
  | zero =>
    rw [List.mem_singleton.1 hc]
    rfl
  | digits _ h => exact isPlain_of_isDigit (h.digits c hc)

theorem isPlain_power {sign : CodePoint} (hs : sign = '-' ∨ sign = '+') {power : Text}
    (hp : IsDigits power) {c : CodePoint} (hc : c ∈ CodePoint.char 'e' :: sign :: power) : isPlain c = true := by
  rcases List.mem_cons.1 hc with rfl | hc
  · rfl
  · rcases List.mem_cons.1 hc with rfl | hc
    · rcases hs with rfl | rfl <;> rfl
    · exact isPlain_of_isDigit (hp.digits c hc)

theorem isPlain_fraction {fraction : Text} (hf : IsDigits fraction) {c : CodePoint}
    (hc : c ∈ CodePoint.char '.' :: fraction) : isPlain c = true := by
  rcases List.mem_cons.1 hc with rfl | hc
  · rfl
  · exact isPlain_of_isDigit (hf.digits c hc)

theorem FloatText.isPlain {t : Text} {n : Nat} {k : Int} (h : FloatText t n k) {c : CodePoint} (hc : c ∈ t) :
    isPlain c = true := by
  cases h with
  | fraction hw hf => exact (List.mem_append.1 hc).elim hw.isPlain (isPlain_fraction hf)
  | power hw hs hp => exact (List.mem_append.1 hc).elim hw.isPlain (isPlain_power hs hp)
  | both hw hf hs hp =>
    rcases List.mem_append.1 hc with hc | hc
    · exact (List.mem_append.1 hc).elim hw.isPlain (isPlain_fraction hf)
    · exact isPlain_power hs hp hc

theorem isPlain_writtenFloat {x : Binary64} (hx : x.IsRounded) {c : CodePoint} (h : c ∈ writtenFloat x) :
    isPlain c = true := by
  cases x with
  | finite negative significand scale =>
    obtain ⟨t, n, k, ht, -, htext⟩ := Binary64.text_finite hx negative
    change c ∈ (Binary64.finite negative significand scale).text at h
    rw [htext] at h
    rcases List.mem_append.1 h with hsign | hc
    · cases negative
      · simp [signText] at hsign
      · rw [List.mem_singleton.1 hsign]
        rfl
    · exact ht.isPlain hc
  | infinite negative => cases negative <;> exact isPlain_of_all rfl h
  | undefined => exact isPlain_of_all rfl h

theorem isPlain_writtenText {t : Text} {c : CodePoint} (h : c ∈ writtenText t) : isPlain c = true := by
  simp only [writtenText, List.cons_append, List.mem_cons, List.mem_append, List.mem_flatMap,
    List.not_mem_nil, or_false] at h
  rcases h with rfl | ⟨d, _, hd⟩ | rfl
  · rfl
  · exact isPlain_writtenChar hd
  · rfl

theorem isPlain_newline {depth : Nat} {c : CodePoint} (h : c ∈ Style.spread.newline depth) :
    isPlain c = true := by
  rcases List.mem_cons.1 h with rfl | hblank
  · rfl
  · rw [List.eq_of_mem_replicate hblank]
    rfl

theorem isPlain_enclosed {depth : Nat} {left right : CodePoint} (hl : isPlain left = true)
    (hr : isPlain right = true) {parts : List Text} (h : ∀ part ∈ parts, ∀ c ∈ part, isPlain c = true)
    {c : CodePoint} (hc : c ∈ Style.spread.enclosed depth left right parts) : isPlain c = true := by
  rw [Style.enclosed] at hc
  split at hc
  · simp only [List.mem_cons, List.not_mem_nil, or_false] at hc
    rcases hc with rfl | rfl
    · exact hl
    · exact hr
  · simp only [List.cons_append, List.mem_cons, List.mem_append, List.not_mem_nil, or_false] at hc
    rcases hc with rfl | ((hline | hparts) | hline) | rfl
    · exact hl
    · exact isPlain_newline hline
    · rcases Text.mem_intercalate_text hparts with hgap | ⟨part, hpart, hc⟩
      · rcases List.mem_cons.1 hgap with rfl | hline
        · rfl
        · exact isPlain_newline hline
      · exact h part hpart c hc
    · exact isPlain_newline hline
    · exact hr

theorem isPlain_write {v : Json} (h : Readable v) (depth : Nat) {c : CodePoint}
    (hc : c ∈ write .spread depth v) : isPlain c = true := by
  induction h generalizing depth c with
  | null => exact isPlain_of_all rfl hc
  | bool b => cases b <;> exact isPlain_of_all rfl hc
  | int _ => exact isPlain_ofInt hc
  | float rounded => exact isPlain_writtenFloat rounded hc
  | text _ => exact isPlain_writtenText hc
  | list _ ih =>
    rw [write, writeItems_eq_map] at hc
    refine isPlain_enclosed rfl rfl (fun part hpart d hd => ?_) hc
    obtain ⟨item, hitem, rfl⟩ := List.mem_map.1 hpart
    exact ih item hitem (depth + 1) hd
  | object _ _ _ ih =>
    rw [write, writeMembers_eq_map] at hc
    refine isPlain_enclosed rfl rfl (fun part hpart d hd => ?_) hc
    obtain ⟨m, hm, rfl⟩ := List.mem_map.1 hpart
    rcases List.mem_append.1 hd with hkey | hvalue
    · rcases List.mem_append.1 hkey with hkey | hcolon
      · exact isPlain_writtenText hkey
      · exact isPlain_of_all rfl hcolon
    · exact ih m hm (depth + 1) hvalue

end Json

/-! ### Text in files -/

theorem Utf8.encode_cons_plain {c : CodePoint} (h : c.toNat < 0x80) (t : Text) :
    encode (c :: t) = UInt8.ofNat c.toNat :: encode t := by
  cases c with
  | char c =>
    have hsize : c.utf8Size = 1 := Char.utf8Size_eq_one_iff.2 (by
      rw [UInt32.le_iff_toNat_le]
      exact Nat.le_of_lt_succ h)
    rw [encode, List.flatMap_cons, octetsOf, String.utf8EncodeChar_eq_singleton hsize]
    rfl
  | half n =>
    change 0xD800 + n.val < 0x80 at h
    omega

theorem CodePoint.char_ofNat_toNat {c : CodePoint} (h : c.toNat < 0x80) : char (Char.ofNat c.toNat) = c := by
  cases c with
  | char c => exact congrArg char (Char.ofNat_toNat c)
  | half n =>
    change 0xD800 + n.val < 0x80 at h
    omega

theorem Utf8.decodeFrom_encode {t : Text} (h : ∀ c ∈ t, Json.isPlain c = true) (position : Nat)
    (done : Text) : decodeFrom position none done (encode t) = .ok (done.reverse ++ t) := by
  induction t generalizing position done with
  | nil => simp [encode, decodeFrom]
  | cons c t ih =>
    have hc : c.toNat < 0x80 := by
      have hplain := h c (by simp)
      simp only [Json.isPlain, Bool.and_eq_true, decide_eq_true_eq] at hplain
      exact hplain.1
    have hoctet : (UInt8.ofNat c.toNat).toNat = c.toNat := by
      simp
      omega
    rw [encode_cons_plain hc, decodeFrom]
    simp only [hoctet, hc, if_true, CodePoint.char_ofNat_toNat hc]
    rw [ih (fun d hd => h d (List.mem_cons_of_mem c hd))]
    simp

theorem Text.unixLines_eq_self {t : Text} (h : ∀ c ∈ t, Json.isPlain c = true) :
    unixLines t = t := by
  induction t with
  | nil => rfl
  | cons c t ih =>
    have hc : c ≠ '\r' := by
      rintro rfl
      exact absurd (h '\r' (by simp)) (by decide)
    rw [unixLines]
    · rw [ih fun d hd => h d (List.mem_cons_of_mem c hd)]
      simp [hc]
    · exact fun rest heq => absurd heq hc

/-- A document that is written to a file is read from it. -/
theorem File.document_write {file after : File} {v : Json} (h : v.Readable)
    (hw : file.write v.spread = .ok after) : after.document = .ok v := by
  have hplain : ∀ c ∈ v.spread, Json.isPlain c = true := fun c => Json.isPlain_write h 0
  have hstate : after.state = .octets (Utf8.encode v.spread) := by
    unfold File.write at hw
    split at hw
    · exact absurd hw (by simp)
    · exact absurd hw (by simp)
    · cases hw
      rfl
  have hdecode : Utf8.decode (Utf8.encode v.spread) = .ok v.spread :=
    Utf8.decodeFrom_encode hplain 0 []
  have htext : after.text = .ok v.spread := by
    rw [File.text, File.rawText, hstate]
    simp [hdecode, Except.map, Text.unixLines_eq_self hplain]
  rw [File.document, htext]
  simp [h.read_spread]

/-! ### What a file holds -/

theorem Utf8.noHalf_decodeFrom {position : Nat} {pending : Option Pending} {done : Text}
    {octets : List UInt8} {t : Text} (h : decodeFrom position pending done octets = .ok t)
    (hdone : done.NoHalf) : t.NoHalf := by
  have hchar {c : Char} {done : Text} (hdone : done.NoHalf) : Text.NoHalf (CodePoint.char c :: done) :=
    fun n hn => hdone n (List.mem_of_ne_of_mem (by simp) hn)
  fun_induction decodeFrom position pending done octets with
  | case1 =>
    cases h
    exact fun n hn => hdone n (List.mem_reverse.mp hn)
  | case3 position done octet rest hplain ih => exact ih h (hchar hdone)
  | case5 position done octet rest hlead p hp ih => exact ih h hdone
  | case6 position done octet rest p hnext value hlast ih => exact ih h (hchar hdone)
  | case7 position done octet rest p hnext value hmore next ih => exact ih h hdone
  | _ => cases h

theorem Text.noHalf_unixLines {t : Text} (h : t.NoHalf) : (unixLines t).NoHalf := by
  have hcons {c : CodePoint} {t : Text} (hc : ∀ n, c ≠ .half n) (ht : t.NoHalf) : NoHalf (c :: t) :=
    fun n hn => (List.mem_cons.mp hn).elim (fun heq => hc n heq.symm) (ht n)
  fun_induction unixLines t with
  | case1 => exact h
  | case2 rest ih => exact hcons (by simp) (ih (h.of_suffix ⟨[_, _], rfl⟩))
  | case3 c rest _ ih =>
    refine hcons ?_ (ih (h.of_suffix (List.suffix_cons c rest)))
    intro n heq
    split at heq
    · cases heq
    · exact h n (heq ▸ List.mem_cons_self)

/-- What is read from a file has only texts that are joined, since its octets are characters. -/
theorem File.readable_document {file : File} {v : Json} (h : file.document = .ok v) : v.Readable := by
  rw [document] at h
  split at h
  · cases h
  · next t htext =>
    split at h
    · next hread =>
      cases h
      obtain ⟨raw, hraw, rfl⟩ := map_eq_ok htext
      refine Json.readable_of_read (Text.noHalf_unixLines ?_) hread
      rw [rawText] at hraw
      split at hraw
      · split at hraw
        · next hdecode =>
          cases hraw
          exact Utf8.noHalf_decodeFrom hdecode fun n hn => absurd hn List.not_mem_nil
        · cases hraw
      · cases hraw
    · cases h

end ServoScript
