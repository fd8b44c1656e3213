import HostLink.Text.Utf8

/-!
# Encoded text is read as it was

The decoder gives U+FFFD for every ill formed part. There is none in text that was encoded: after the
bytes of a character it has found that character, and is ready for the next one.
-/

namespace HostLink.Text.Utf8

variable {surrogates : Bool} {b n value missing low high : Nat} {rest : List UInt8}

theorem items_ofNat (pending : Pending) (hbyte : b < 256) :
    items surrogates pending (.ofNat b :: rest) =
      (step surrogates pending b).1 ++ items surrogates (step surrogates pending b).2 rest := by
  rw [items, UInt8.toNat_ofNat', Nat.mod_eq_of_lt hbyte]

/-! ### Bytes inside a character -/

theorem items_inside (hlow : low ≤ b) (hhigh : b ≤ high) (hbyte : b < 256) :
    items surrogates (.inside value (missing + 2) low high) (.ofNat b :: rest) =
      items surrogates (.inside (value * 64 + (b - 0x80)) (missing + 1) 0x80 0xbf) rest := by
  have hmore : ¬missing + 2 ≤ 1 := by omega
  rw [items_ofNat _ hbyte, step, if_pos ⟨hlow, hhigh⟩]
  simp only [hmore, if_false]
  rfl

theorem items_last (hlow : low ≤ b) (hhigh : b ≤ high) (hbyte : b < 256) :
    items surrogates (.inside value 1 low high) (.ofNat b :: rest) =
      some (value * 64 + (b - 0x80)) :: items surrogates .ready rest := by
  rw [items_ofNat _ hbyte, step, if_pos ⟨hlow, hhigh⟩]
  rfl

/-! ### Characters, by the number of their bytes -/

theorem items_one (hn : n ≤ 0x7f) :
    items false .ready (.ofNat n :: rest) = some n :: items false .ready rest := by
  rw [items_ofNat _ (by omega), step, begin, if_pos (by omega)]
  rfl

theorem items_two (hlow : 0x80 ≤ n) (hhigh : n ≤ 0x7ff) :
    items false .ready (.ofNat (n / 64 % 32 + 192) :: .ofNat (n % 64 + 128) :: rest) =
      some n :: items false .ready rest := by
  have hvalue : (n / 64 % 32 + 192 - 0xc0) * 64 + (n % 64 + 128 - 0x80) = n := by omega
  rw [items_ofNat _ (by omega), step, begin, if_neg (by omega), if_neg (by omega),
    if_pos (by omega)]
  dsimp only
  rw [List.nil_append, items_last (by omega) (by omega) (by omega), hvalue]

/-- The bounds on the second byte shut out surrogates, and what fits into two bytes. -/
theorem items_three (hlow : 0x800 ≤ n) (hhigh : n ≤ 0xffff) (hscalar : n < 0xd800 ∨ 0xdfff < n) :
    items false .ready (.ofNat (n / 4096 % 16 + 224) :: .ofNat (n / 64 % 64 + 128) ::
      .ofNat (n % 64 + 128) :: rest) = some n :: items false .ready rest := by
  have hvalue : ((n / 4096 % 16 + 224 - 0xe0) * 64 + (n / 64 % 64 + 128 - 0x80)) * 64 +
      (n % 64 + 128 - 0x80) = n := by omega
  have hfirst : (if n / 4096 % 16 + 224 = 0xe0 then 0xa0 else 0x80) ≤ n / 64 % 64 + 128 := by
    split <;> omega
  have hlast : n / 64 % 64 + 128 ≤ lastAfter false (n / 4096 % 16 + 224) := by
    unfold lastAfter
    simp only [Bool.not_false, and_true]
    split <;> omega
  rw [items_ofNat _ (by omega), step, begin, if_neg (by omega), if_neg (by omega),
    if_neg (by omega), if_pos (by omega)]
  dsimp only
  rw [List.nil_append, items_inside hfirst hlast (by omega),
    items_last (by omega) (by omega) (by omega), hvalue]

theorem items_four (hlow : 0x10000 ≤ n) (hhigh : n < 0x110000) :
    items false .ready (.ofNat (n / 262144 % 8 + 240) :: .ofNat (n / 4096 % 64 + 128) ::
      .ofNat (n / 64 % 64 + 128) :: .ofNat (n % 64 + 128) :: rest) =
        some n :: items false .ready rest := by
  have hvalue : (((n / 262144 % 8 + 240 - 0xf0) * 64 + (n / 4096 % 64 + 128 - 0x80)) * 64 +
      (n / 64 % 64 + 128 - 0x80)) * 64 + (n % 64 + 128 - 0x80) = n := by omega
  have hfirst : (if n / 262144 % 8 + 240 = 0xf0 then 0x90 else 0x80) ≤ n / 4096 % 64 + 128 := by
    split <;> omega
  have hlast : n / 4096 % 64 + 128 ≤ if n / 262144 % 8 + 240 = 0xf4 then 0x8f else 0xbf := by
    split <;> omega
  rw [items_ofNat _ (by omega), step, begin, if_neg (by omega), if_neg (by omega),
    if_neg (by omega), if_neg (by omega), if_pos (by omega)]
  dsimp only
  rw [List.nil_append, items_inside hfirst hlast (by omega),
    items_inside (by omega) (by omega) (by omega), items_last (by omega) (by omega) (by omega),
    hvalue]

/-- **The bytes of a character are read as that character.** -/
theorem items_utf8EncodeChar (c : Char) (rest : List UInt8) :
    items false .ready (String.utf8EncodeChar c ++ rest) =
      some c.toNat :: items false .ready rest := by
  have hscalar : c.toNat < 0xd800 ∨ 0xdfff < c.toNat ∧ c.toNat < 0x110000 := c.valid
  unfold String.utf8EncodeChar
  rw [show c.val.toNat = c.toNat from rfl]
  dsimp only
  split
  · exact items_one ‹_›
  · split
    · exact items_two (by omega) ‹_›
    · split
      · exact items_three (by omega) ‹_› (by omega)
      · exact items_four (by omega) (by omega)

theorem items_encode (s : List Char) :
    items false .ready (encode s) = s.map fun c => some c.toNat := by
  induction s with
  | nil => rfl
  | cons c rest ih =>
      have hencode : encode (c :: rest) = String.utf8EncodeChar c ++ encode rest :=
        List.flatMap_cons
      rw [hencode, items_utf8EncodeChar, ih, List.map_cons]

theorem scalar?_toNat (c : Char) : scalar? c.toNat = some c := by
  have hvalid : c.toNat.isValidChar := c.valid
  rw [scalar?, if_pos hvalid, Char.ofNat_toNat]

/-- **Nothing is lost of encoded text.** -/
theorem decodeLossy_encode (s : List Char) : decodeLossy (encode s) = s := by
  rw [decodeLossy, items_encode, List.map_map]
  refine (List.map_congr_left fun c _ => ?_).trans (List.map_id s)
  simp only [Function.comp_apply, Option.bind_some, scalar?_toNat, Option.getD_some, id]

end HostLink.Text.Utf8
