import Componentry.Cursor.Basic

/-! # Bytes, offsets and cuts

What a cursor over the bytes of a text sees.  Where a character starts
(`Text.atByte?`), a byte of an ASCII character is that character, and the bytes of
every other character are no ASCII characters (`Cursor.Reads`).  So a search that
treats all bytes outside of ASCII alike goes over such a character as a whole
(`Cursor.Reads.step`), also when it has jumped into it (`Cursor.Reads.jump`).

Whether a text starts with another one can be seen on the bytes
(`Text.utf8_prefix_iff`), because no character's bytes start those of another one.
-/
namespace Componentry

namespace Text

/-! ## Offsets -/

theorem byteLength_eq_zero {s : Text} : byteLength s = 0 ↔ s = [] := by
  cases s with
  | nil => simp
  | cons c s =>
    have := c.utf8Size_pos
    simp
    omega

/-- What is cut off a text that is longer than the rest has bytes. -/
theorem byteLength_pos {v s t : Text} (h : v ++ s = t) (hlen : s.length < t.length) :
    0 < byteLength v := by
  refine Nat.pos_of_ne_zero fun hzero => ?_
  rw [byteLength_eq_zero.1 hzero, List.nil_append] at h
  rw [h] at hlen
  exact Nat.lt_irrefl _ hlen

theorem exists_succ_byteLength (c : Char) (s : Text) :
    ∃ n, c.utf8Size + byteLength s = n + 1 :=
  ⟨_, (Nat.succ_pred_eq_of_pos (Nat.add_pos_left c.utf8Size_pos _)).symm⟩

theorem atByte?_byteLength (v w : Text) : atByte? (byteLength v) (v ++ w) = some w := by
  induction v with
  | nil => cases w <;> rfl
  | cons c v ih =>
    obtain ⟨n, hn⟩ := exists_succ_byteLength c v
    rw [byteLength_cons, hn, List.cons_append, atByte?, if_pos (by omega)]
    rw [show n + 1 - c.utf8Size = byteLength v by omega]
    exact ih

theorem atByte?_zero (s : Text) : atByte? 0 s = some s := atByte?_byteLength [] s

/-- A character starts at an offset, or the text ends there, if the text before it has
just so many bytes. -/
theorem atByte?_eq_some {i : Nat} {text s : Text} :
    atByte? i text = some s ↔ ∃ v, text = v ++ s ∧ byteLength v = i := by
  constructor
  · intro h
    fun_induction atByte? i text with
    | case1 => exact ⟨[], by cases h; rfl, rfl⟩
    | case2 => cases h
    | case3 n c t hle ih =>
      obtain ⟨v, rfl, hv⟩ := ih h
      exact ⟨c :: v, rfl, by rw [byteLength_cons, hv]; omega⟩
    | case4 => cases h
  · rintro ⟨v, rfl, rfl⟩
    exact atByte?_byteLength v s

theorem atByte?_add {i : Nat} {text v s : Text} (h : atByte? i text = some (v ++ s)) :
    atByte? (i + byteLength v) text = some s := by
  obtain ⟨u, rfl, rfl⟩ := atByte?_eq_some.1 h
  exact atByte?_eq_some.2 ⟨u ++ v, by simp, by simp⟩

theorem atByte?_le {i : Nat} {text s : Text} (h : atByte? i text = some s) :
    i + byteLength s = byteLength text := by
  obtain ⟨u, rfl, rfl⟩ := atByte?_eq_some.1 h
  simp

/-- Less of a text is left behind a later offset. -/
theorem atByte?_lt {i j : Nat} {text s t : Text} (hi : atByte? i text = some s)
    (hj : atByte? j text = some t) (hlen : t.length < s.length) : i < j := by
  obtain ⟨v, hv, rfl⟩ := atByte?_eq_some.1 hi
  obtain ⟨w, hw, rfl⟩ := atByte?_eq_some.1 hj
  rcases List.append_eq_append_iff.1 (hv.symm.trans hw) with ⟨u, rfl, hs⟩ | ⟨u, rfl, ht⟩
  · have := byteLength_pos hs.symm hlen
    rw [byteLength_append]
    omega
  · rw [ht, List.length_append] at hlen
    omega

/-! ## Cuts -/

theorem takeBytes?_byteLength (v w : Text) : takeBytes? (byteLength v) (v ++ w) = some v := by
  induction v with
  | nil => cases w <;> rfl
  | cons c v ih =>
    obtain ⟨n, hn⟩ := exists_succ_byteLength c v
    rw [byteLength_cons, hn, List.cons_append, takeBytes?, if_pos (by omega)]
    rw [show n + 1 - c.utf8Size = byteLength v by omega, ih]
    rfl

/-- The part of a text behind an offset where a character starts. -/
theorem slice?_add {i : Nat} {text v s : Text} (h : atByte? i text = some (v ++ s)) :
    slice? text i (i + byteLength v) = some v := by
  rw [slice?, if_pos (Nat.le_add_right _ _), h, Option.bind_some, Nat.add_sub_cancel_left,
    takeBytes?_byteLength]

theorem takeBytes?_eq_some {n : Nat} {s v : Text} (h : takeBytes? n s = some v) :
    ∃ w, s = v ++ w ∧ byteLength v = n := by
  induction s generalizing n v with
  | nil =>
    cases n with
    | zero =>
      cases h
      exact ⟨[], rfl, rfl⟩
    | succ n => cases h
  | cons c s ih =>
    cases n with
    | zero =>
      cases h
      exact ⟨c :: s, rfl, rfl⟩
    | succ n =>
      rw [takeBytes?] at h
      split at h
      · obtain ⟨v, hv, rfl⟩ := Option.map_eq_some_iff.1 h
        obtain ⟨w, rfl, hlen⟩ := ih hv
        exact ⟨w, rfl, by rw [byteLength_cons]; omega⟩
      · cases h

/-- What is cut out stands at the first of the offsets, and the second one is behind it. -/
theorem slice?_eq_some {i j : Nat} {text v : Text} (h : slice? text i j = some v) :
    ∃ s, atByte? i text = some (v ++ s) ∧ j = i + byteLength v := by
  unfold slice? at h
  split at h
  · obtain ⟨s, hs, hv⟩ := Option.bind_eq_some_iff.1 h
    obtain ⟨w, rfl, hlen⟩ := takeBytes?_eq_some hv
    exact ⟨w, hs, by omega⟩
  · cases h

/-! ## Bytes -/

@[simp] theorem utf8_nil : utf8 [] = [] := rfl

@[simp] theorem utf8_cons (c : Char) (s : Text) :
    utf8 (c :: s) = String.utf8EncodeChar c ++ utf8 s := rfl

@[simp] theorem utf8_append (s t : Text) : utf8 (s ++ t) = utf8 s ++ utf8 t := by
  simp [utf8]

@[simp] theorem length_utf8 (s : Text) : (utf8 s).length = byteLength s := by
  induction s with
  | nil => rfl
  | cons c s ih => simp [ih]

theorem toNat_ofUInt8 (b : UInt8) : (Char.ofUInt8 b).toNat = b.toNat := UInt8.toNat_toUInt32 b

theorem utf8EncodeChar_of_isAscii {c : Char} (hc : isAscii c = true) :
    ∃ b, String.utf8EncodeChar c = [b] ∧ Char.ofUInt8 b = c := by
  have hlt : c.toNat < 128 := by simpa [isAscii] using hc
  have hle : c.val.toNat ≤ 127 := Nat.le_of_lt_succ hlt
  refine ⟨UInt8.ofNat c.val.toNat, if_pos hle, ?_⟩
  refine Char.toNat_inj.1 ?_
  rw [toNat_ofUInt8, UInt8.toNat_ofNat']
  exact Nat.mod_eq_of_lt (by omega)

/-- The bytes of a character that is not in ASCII are not in ASCII either. -/
theorem isAscii_ofUInt8_of_mem {c : Char} (hc : isAscii c = false) {b : UInt8}
    (hb : b ∈ String.utf8EncodeChar c) : isAscii (Char.ofUInt8 b) = false := by
  have hlt : ¬ c.toNat < 128 := by simpa [isAscii] using hc
  have hle : ¬ c.val.toNat ≤ 127 := fun h => hlt (Nat.lt_succ_of_le h)
  simp only [isAscii, toNat_ofUInt8, decide_eq_false_iff_not]
  simp only [String.utf8EncodeChar, hle, if_false] at hb
  -- Every byte is the sum of a few bits and a constant of at least 128.
  split at hb
  · simp only [List.mem_cons, List.not_mem_nil, or_false] at hb
    rcases hb with rfl | rfl <;> rw [UInt8.toNat_ofNat'] <;> omega
  split at hb
  · simp only [List.mem_cons, List.not_mem_nil, or_false] at hb
    rcases hb with rfl | rfl | rfl <;> rw [UInt8.toNat_ofNat'] <;> omega
  · simp only [List.mem_cons, List.not_mem_nil, or_false] at hb
    rcases hb with rfl | rfl | rfl | rfl <;> rw [UInt8.toNat_ofNat'] <;> omega

/-- No character's bytes start those of another one. -/
theorem utf8EncodeChar_append_inj {c d : Char} {x y : List UInt8}
    (h : String.utf8EncodeChar c ++ x = String.utf8EncodeChar d ++ y) : c = d ∧ x = y := by
  have hdecode : ∀ (c : Char) (x : List UInt8),
      (String.utf8EncodeChar c ++ x).toByteArray.utf8DecodeChar? 0 = some c := by
    intro c x
    rw [List.toByteArray_append]
    exact ByteArray.utf8DecodeChar?_utf8EncodeChar_append
  have hcd : c = d := by
    have hc := hdecode c x
    rw [h, hdecode d y] at hc
    exact (Option.some.inj hc).symm
  subst hcd
  exact ⟨rfl, List.append_cancel_left h⟩

/-- Whether a text starts with another one can be seen on the bytes. -/
theorem utf8_prefix_iff {p s : Text} : utf8 p <+: utf8 s ↔ p <+: s := by
  constructor
  · rintro ⟨x, hx⟩
    induction p generalizing s with
    | nil => exact List.nil_prefix
    | cons c p ih =>
      cases s with
      | nil =>
        have hlen := congrArg List.length hx
        have hpos := c.utf8Size_pos
        simp at hlen
        omega
      | cons d s =>
        rw [utf8_cons, utf8_cons, List.append_assoc] at hx
        obtain ⟨rfl, hx'⟩ := utf8EncodeChar_append_inj hx
        exact List.cons_prefix_cons.2 ⟨rfl, ih hx'⟩
  · rintro ⟨t, rfl⟩
    exact ⟨utf8 t, (utf8_append p t).symm⟩

end Text

namespace Cursor

/-! ## Reading a text -/

/-- From offset `i` on the bytes are those of the text `s`. -/
structure Reads (bytes : List UInt8) (i : Nat) (s : Text) : Prop where
  length : i + Text.byteLength s = bytes.length
  drop : bytes.drop i = s.utf8

theorem Reads.of_atByte? {text s : Text} {i : Nat} (h : Text.atByte? i text = some s) :
    Reads text.utf8 i s := by
  obtain ⟨v, rfl, rfl⟩ := Text.atByte?_eq_some.1 h
  refine ⟨by simp, ?_⟩
  rw [Text.utf8_append, ← Text.length_utf8, List.drop_left]

variable {bytes : List UInt8} {i : Nat} {c : Char} {s : Text}

theorem Reads.add {v : Text} (h : Reads bytes i (v ++ s)) :
    Reads bytes (i + Text.byteLength v) s := by
  refine ⟨by rw [← h.length, Text.byteLength_append]; omega, ?_⟩
  rw [← List.drop_drop, h.drop, Text.utf8_append, ← Text.length_utf8, List.drop_left]

theorem Reads.next (h : Reads bytes i (c :: s)) : Reads bytes (i + c.utf8Size) s :=
  Reads.add (v := [c]) h

theorem read?_eq_head? : read? bytes i = (bytes.drop i).head?.map Char.ofUInt8 := by
  rw [read?, List.head?_drop]

theorem Reads.nil (h : Reads bytes i []) : read? bytes i = none := by
  rw [read?_eq_head?, h.drop]
  rfl

theorem utf8Size_of_isAscii (hc : Text.isAscii c = true) : c.utf8Size = 1 := by
  obtain ⟨b, hb, -⟩ := Text.utf8EncodeChar_of_isAscii hc
  rw [← String.length_utf8EncodeChar, hb]
  rfl

/-- A character of ASCII is one byte, which is read as the character. -/
theorem Reads.ascii (h : Reads bytes i (c :: s)) (hc : Text.isAscii c = true) :
    read? bytes i = some c ∧ Reads bytes (i + 1) s := by
  obtain ⟨b, hb, hbc⟩ := Text.utf8EncodeChar_of_isAscii hc
  refine ⟨?_, utf8Size_of_isAscii hc ▸ h.next⟩
  rw [read?_eq_head?, h.drop, Text.utf8_cons, hb, List.singleton_append, List.head?_cons,
    Option.map_some, hbc]

theorem atByte?_ascii {text : Text} (h : Text.atByte? i text = some (c :: s))
    (hc : Text.isAscii c = true) : Text.atByte? (i + 1) text = some s := by
  rw [← utf8Size_of_isAscii hc]
  exact Text.atByte?_add (v := [c]) h

/-- A loop goes on where less of the text is left. -/
theorem goesOn_of_atByte? {text t : Text} {j : Nat} (hi : Text.atByte? i text = some s)
    (hj : Text.atByte? j text = some t) (hlen : t.length < s.length) : goesOn text i j = true := by
  have hle := Text.atByte?_le hj
  exact goesOn_iff.2 ⟨Text.atByte?_lt hi hj hlen, by omega⟩

/-- The bytes of every other character are read as characters that are not in ASCII. -/
theorem Reads.wide (h : Reads bytes i (c :: s)) (hc : Text.isAscii c = false) {k : Nat}
    (hk : k < c.utf8Size) : ∃ d, read? bytes (i + k) = some d ∧ Text.isAscii d = false := by
  have hlen : k < (String.utf8EncodeChar c).length := by rwa [String.length_utf8EncodeChar]
  refine ⟨Char.ofUInt8 (String.utf8EncodeChar c)[k], ?_,
    Text.isAscii_ofUInt8_of_mem hc (List.getElem_mem hlen)⟩
  rw [read?, ← List.getElem?_drop, h.drop, Text.utf8_cons, List.getElem?_append_left hlen,
    List.getElem?_eq_getElem hlen, Option.map_some]

/-- The first byte of a character is the character, or neither is in ASCII. -/
theorem Reads.first (h : Reads bytes i (c :: s)) :
    ∃ d, read? bytes i = some d ∧ (d = c ∨ Text.isAscii d = false ∧ Text.isAscii c = false) := by
  cases hc : Text.isAscii c with
  | true => exact ⟨c, (h.ascii hc).1, Or.inl rfl⟩
  | false =>
    obtain ⟨d, hd, hascii⟩ := h.wide hc c.utf8Size_pos
    exact ⟨d, hd, Or.inr ⟨hascii, rfl⟩⟩

/-- **A search that passes over every byte outside of ASCII** goes over a character
outside of ASCII as a whole, wherever in it it stands. -/
theorem Reads.over {β : Type} {f : Nat → β}
    (hf : ∀ j d, read? bytes j = some d → Text.isAscii d = false → f j = f (j + 1))
    (h : Reads bytes i (c :: s)) (hc : Text.isAscii c = false) {k : Nat} (hk : k ≤ c.utf8Size) :
    f (i + k) = f (i + c.utf8Size) := by
  obtain ⟨m, hm⟩ := Nat.exists_eq_add_of_le hk
  induction m generalizing k with
  | zero => rw [hm, Nat.add_zero]
  | succ m ih =>
    obtain ⟨d, hd, hascii⟩ := h.wide hc (show k < c.utf8Size by omega)
    rw [hf _ d hd hascii, Nat.add_assoc]
    exact ih (by omega) (by omega)

/-- A jump of one byte into a character is as good as one over it. -/
theorem Reads.jump {β : Type} {f : Nat → β}
    (hf : ∀ j d, read? bytes j = some d → Text.isAscii d = false → f j = f (j + 1))
    (h : Reads bytes i (c :: s)) : f (i + 1) = f (i + c.utf8Size) := by
  cases hc : Text.isAscii c with
  | true => rw [utf8Size_of_isAscii hc]
  | false => exact h.over hf hc c.utf8Size_pos

/-- What such a search does at a character: its byte decides, if it is in ASCII, and else the
search goes on as it is. -/
theorem Reads.step {β : Type} {f g : Nat → β} (h : Reads bytes i (c :: s))
    (hf : ∀ j d, read? bytes j = some d → Text.isAscii d = false → f j = f (j + 1))
    (hascii : read? bytes i = some c → f i = g (i + 1))
    (hkept : Text.isAscii c = false → f = g) : f i = g (i + c.utf8Size) := by
  cases hc : Text.isAscii c with
  | true =>
    rw [utf8Size_of_isAscii hc]
    exact hascii (h.ascii hc).1
  | false =>
    rw [← hkept hc]
    exact h.over hf hc (Nat.zero_le _)

/-- The last byte of a character is the character, or neither is in ASCII. -/
theorem Reads.last (h : Reads bytes i (c :: s)) :
    ∃ d, read? bytes (i + (c.utf8Size - 1)) = some d ∧
      (d = c ∨ Text.isAscii d = false ∧ Text.isAscii c = false) := by
  cases hc : Text.isAscii c with
  | true =>
    refine ⟨c, ?_, Or.inl rfl⟩
    rw [utf8Size_of_isAscii hc]
    exact (h.ascii hc).1
  | false =>
    obtain ⟨d, hd, hascii⟩ := h.wide hc (show c.utf8Size - 1 < c.utf8Size by
      have := c.utf8Size_pos
      omega)
    exact ⟨d, hd, Or.inr ⟨hascii, rfl⟩⟩

/-- A character of ASCII is read just where it stands. -/
theorem Reads.read?_eq_iff (h : Reads bytes i s) {a : Char} (ha : Text.isAscii a = true) :
    read? bytes i = some a ↔ ∃ t, s = a :: t := by
  cases s with
  | nil => simp [h.nil]
  | cons c s =>
    cases hc : Text.isAscii c with
    | true =>
      rw [(h.ascii hc).1]
      simp
    | false =>
      obtain ⟨d, hd, hascii⟩ := h.wide hc c.utf8Size_pos
      rw [Nat.add_zero] at hd
      rw [hd]
      constructor
      · rintro heq
        cases heq
        rw [ha] at hascii
        cases hascii
      · rintro ⟨t, heq⟩
        cases heq
        rw [ha] at hc
        cases hc

/-- Whether the bytes from an offset on start with those of a text. -/
theorem Reads.isPrefixOf (h : Reads bytes i s) (p : Text) :
    p.utf8.isPrefixOf (bytes.drop i) = (Text.dropPrefix? p s).isSome := by
  rw [h.drop, Bool.eq_iff_iff, List.isPrefixOf_iff_prefix, Text.utf8_prefix_iff,
    Option.isSome_iff_exists]
  simp only [Text.dropPrefix?_eq_some]
  exact ⟨fun ⟨t, ht⟩ => ⟨t, ht.symm⟩, fun ⟨t, ht⟩ => ⟨t, ht.symm⟩⟩

theorem Reads.from? (h : Reads bytes i s) : Cursor.from? bytes i = some (bytes.drop i) :=
  if_pos (by rw [← h.length]; exact Nat.le_add_right _ _)

/-- What a predicate on bytes skips are the characters that it holds of, if it does not
tell the characters outside of ASCII apart. -/
theorem Reads.skipWhile {p : Char → Bool} {b : Bool}
    (hp : ∀ d, Text.isAscii d = false → p d = b) (h : Reads bytes i s) :
    Cursor.skipWhile p bytes i = i + Text.byteLength (s.takeWhile p) := by
  induction s generalizing i with
  | nil =>
    rw [skipWhile_of_none h.nil]
    simp
  | cons c s ih =>
    cases hc : Text.isAscii c with
    | true =>
      obtain ⟨hread, hnext⟩ := h.ascii hc
      rw [skipWhile_of_some hread]
      by_cases hpc : p c = true
      · rw [if_pos hpc, ih hnext, List.takeWhile_cons_of_pos hpc, Text.byteLength_cons,
          utf8Size_of_isAscii hc]
        omega
      · rw [if_neg hpc, List.takeWhile_cons_of_neg hpc]
        rfl
    | false =>
      by_cases hpc : p c = true
      · have hover := h.over (f := Cursor.skipWhile p bytes) (k := 0) (fun j d hd hascii => by
          rw [skipWhile_of_some hd, if_pos ((hp d hascii).trans ((hp c hc).symm.trans hpc))]) hc
            (Nat.zero_le _)
        rw [Nat.add_zero] at hover
        rw [hover, ih h.next, List.takeWhile_cons_of_pos hpc, Text.byteLength_cons]
        omega
      · obtain ⟨d, hd, hascii⟩ := h.wide hc c.utf8Size_pos
        have hpd : ¬ p d = true := by rwa [hp d hascii, ← hp c hc]
        rw [Nat.add_zero] at hd
        rw [skipWhile_of_some hd, if_neg hpd, List.takeWhile_cons_of_neg hpc]
        rfl

end Cursor

end Componentry
