import PcbuDesktop.Crypt.Envelope

set_option autoImplicit false

/-! # Stored secrets

The string overloads of `CryptUtils::EncryptAES` and `DecryptAES`, with which login and SSH
passwords are stored. Both compare the size of their argument with `CRYPT_BUFFER_SIZE`, but the
argument of the decoder is the hexadecimal text of the envelope, which is more than twice as long
as the plain text; and the decoder takes a plain text of length zero for a failure. So the decoder
gives back what the encoder took exactly for 1 to 976 bytes.
-/

namespace PcbuDesktop

open Buffer

/-! ## Hexadecimal text -/

theorem hexValue_hexDigit : ∀ n : Fin 16, hexValue (hexDigit (UInt8.ofNat n)) = some (UInt8.ofNat n) := by
  decide

theorem unhex_digits (b : UInt8) (rest : Str) :
    unhex (hexDigit (b / 16) :: hexDigit (b % 16) :: rest) = (unhex rest).map (fun tl => b :: tl) := by
  have hb := b.toNat_lt
  have hhi : hexValue (hexDigit (b / 16)) = some (b / 16) := by
    have h := hexValue_hexDigit ⟨b.toNat / 16, by omega⟩
    have hval : UInt8.ofNat (b.toNat / 16) = b / 16 := by
      apply UInt8.toNat_inj.mp
      rw [UInt8.toNat_ofNat', UInt8.toNat_div]
      exact Nat.mod_eq_of_lt (by omega)
    rwa [hval] at h
  have hlo : hexValue (hexDigit (b % 16)) = some (b % 16) := by
    have h := hexValue_hexDigit ⟨b.toNat % 16, by omega⟩
    have hval : UInt8.ofNat (b.toNat % 16) = b % 16 := by
      apply UInt8.toNat_inj.mp
      rw [UInt8.toNat_ofNat', UInt8.toNat_mod]
      exact Nat.mod_eq_of_lt (by omega)
    rwa [hval] at h
  have hsum : b / 16 * 16 + b % 16 = b := by
    apply UInt8.toNat_inj.mp
    have h16 : UInt8.toNat 16 = 16 := rfl
    simp only [UInt8.toNat_add, UInt8.toNat_mul, UInt8.toNat_div, UInt8.toNat_mod, h16]
    omega
  rw [unhex, hhi, hlo]
  cases unhex rest with
  | none => rfl
  | some tl =>
      simp only [Option.bind_eq_bind, Option.bind_some, Option.map_some, hsum]
      rfl

theorem unhex_toHexString (data : Bytes) : unhex (toHexString data) = some data := by
  induction data with
  | nil => rfl
  | cons b data ih =>
      show unhex (hexDigit (b / 16) :: hexDigit (b % 16) :: toHexString data) = _
      rw [unhex_digits, ih]
      rfl

theorem fromHexString_toHexString (data : Bytes) : fromHexString (toHexString data) = data := by
  rw [fromHexString, unhex_toHexString]
  rfl

theorem length_unhex {hex : Str} {data : Bytes} (h : unhex hex = some data) :
    2 * data.length = hex.length := by
  induction hex using unhex.induct generalizing data with
  | case1 => cases h; rfl
  | case2 c => cases h
  | case3 a b rest ih =>
      rw [unhex] at h
      obtain ⟨hi, -, h⟩ := Option.bind_eq_some_iff.mp h
      obtain ⟨lo, -, h⟩ := Option.bind_eq_some_iff.mp h
      obtain ⟨tl, htl, h⟩ := Option.bind_eq_some_iff.mp h
      cases h
      have := ih htl
      simp only [List.length_cons]
      omega

theorem length_fromHexString_le (hex : Str) : (fromHexString hex).length ≤ hex.length := by
  unfold fromHexString
  cases h : unhex hex with
  | none => exact Nat.zero_le _
  | some data =>
      have := length_unhex h
      show data.length ≤ hex.length
      omega

theorem length_toHexString (data : Bytes) : (toHexString data).length = 2 * data.length := by
  induction data with
  | nil => rfl
  | cons b data ih =>
      show (toHexString data).length + 1 + 1 = 2 * (data.length + 1)
      omega

/-! ## The two directions -/

section

variable {evp : Evp}

theorem encryptAESText_eq (hs : evp.Sized) (encBuffer : Malloc) (iv salt : RandBytes)
    (data pwd : Str) :
    encryptAESText evp encBuffer iv salt data pwd =
      .ok ((encBuffer.region CRYPT_BUFFER_SIZE).bind (fun _ =>
        (envelopeOf evp pwd iv salt CRYPT_BUFFER_SIZE data).map toHexString)) := by
  unfold encryptAESText
  by_cases hsize : CRYPT_BUFFER_SIZE < data.length
  · have hroom : envelopeOf evp pwd iv salt CRYPT_BUFFER_SIZE data = none := by
      unfold envelopeOf
      rw [if_pos (by omega)]
    rw [if_pos hsize, hroom]
    cases encBuffer.region CRYPT_BUFFER_SIZE with
    | none => rfl
    | some buffer => rfl
  rw [if_neg hsize]
  cases henc : encBuffer.region CRYPT_BUFFER_SIZE with
  | none => rfl
  | some buffer =>
  have hlen := encBuffer.length_region _ _ henc
  have heq := encryptAESBuffer_eq hs iv salt data buffer pwd
  rw [hlen] at heq
  simp only [heq, ok_bind, Option.bind_some]
  cases henv : envelopeOf evp pwd iv salt CRYPT_BUFFER_SIZE data with
  | none => rfl
  | some envelope =>
      obtain ⟨-, ivBytes, saltBytes, hiv, hsalt, hseal⟩ := envelopeOf_eq_some henv
      have hlen₂ := length_sealEnvelope hs hiv hsalt hseal
      dsimp only
      rw [if_neg (by omega), read_left]
      rfl

theorem decryptAESText_eq (hs : evp.Sized) (decBuffer : Malloc) (data pwd : Str) :
    decryptAESText evp decBuffer data pwd =
      .ok (if CRYPT_BUFFER_SIZE < data.length ∨ fromHexString data = [] ∨
          decBuffer.region CRYPT_BUFFER_SIZE = none then none
        else (openEnvelope evp pwd (fromHexString data)).filter (fun plain => plain ≠ [])) := by
  unfold decryptAESText
  by_cases hsize : CRYPT_BUFFER_SIZE < data.length
  · rw [if_pos hsize, if_pos (Or.inl hsize)]
  rw [if_neg hsize]
  dsimp only
  by_cases hempty : fromHexString data = []
  · rw [if_pos hempty, if_pos (Or.inr (Or.inl hempty))]
  rw [if_neg hempty]
  cases hdec : decBuffer.region CRYPT_BUFFER_SIZE with
  | none => rw [if_pos (Or.inr (Or.inr rfl))]
  | some buffer =>
  rw [if_neg (by simp [hsize, hempty])]
  have hlen := decBuffer.length_region _ _ hdec
  have hhex := length_fromHexString_le data
  have heq := decryptAESBuffer_eq hs (fromHexString data) buffer pwd (by omega)
  rw [hlen] at heq
  simp only [heq, ok_bind]
  cases hopen : openEnvelope evp pwd (fromHexString data) with
  | none => rfl
  | some plain =>
      dsimp only
      by_cases hplain : plain = []
      · subst hplain
        rfl
      · have hpos := List.length_pos_of_ne_nil hplain
        rw [if_neg (by omega), read_left]
        simp [Option.filter, hplain, pure, Except.pure]

/-! ## Round trip -/

/-- The text of a secret, when the encoder returns one. -/
theorem encryptAESText_some (hs : evp.Sized) {encBuffer : Malloc} {iv salt : RandBytes}
    {data pwd c : Str} (h : encryptAESText evp encBuffer iv salt data pwd = .ok (some c)) :
    data.length ≤ 2000 ∧ ∃ ivBytes saltBytes envelope : Bytes, ivBytes.length = 16 ∧
      saltBytes.length = 16 ∧ sealEnvelope evp pwd ivBytes saltBytes data = some envelope ∧
      c = toHexString envelope := by
  rw [encryptAESText_eq hs] at h
  obtain ⟨buffer, -, hmap⟩ := Option.bind_eq_some_iff.mp (Except.ok.inj h)
  obtain ⟨envelope, henv, rfl⟩ := Option.map_eq_some_iff.mp hmap
  obtain ⟨hroom, ivBytes, saltBytes, hiv, hsalt, hseal⟩ := envelopeOf_eq_some henv
  refine ⟨?_, ivBytes, saltBytes, envelope, hiv, hsalt, hseal, rfl⟩
  simp only [CRYPT_BUFFER_SIZE] at hroom
  omega

/-- Up to 2000 bytes the encoder does return a text. -/
theorem encryptAESText_isSome (hs : evp.Sized) (hi : evp.Inverts) (iv salt : Vector UInt8 16)
    (data pwd : Str) (hlen : data.length ≤ 2000) :
    ∃ c, encryptAESText evp .zeroed (some iv) (some salt) data pwd = .ok (some c) := by
  obtain ⟨envelope, hseal⟩ := sealEnvelope_isSome hi pwd iv.toList salt.toList data
  have henv : envelopeOf evp pwd (some iv) (some salt) CRYPT_BUFFER_SIZE data = some envelope := by
    unfold envelopeOf
    rw [if_neg (by rw [CRYPT_BUFFER_SIZE]; omega)]
    exact hseal
  exact ⟨toHexString envelope, by rw [encryptAESText_eq hs, henv]; rfl⟩

/-- What the decoder makes of the text of a secret. -/
theorem decryptAESText_of_encrypted (hs : evp.Sized) (hi : evp.Inverts) (decBuffer : Malloc)
    {encBuffer : Malloc} {iv salt : RandBytes} {data pwd c : Str}
    (h : encryptAESText evp encBuffer iv salt data pwd = .ok (some c)) :
    decryptAESText evp decBuffer c pwd =
      .ok (if 1 ≤ data.length ∧ data.length ≤ 976 ∧
          (decBuffer.region CRYPT_BUFFER_SIZE).isSome = true then some data
        else none) := by
  obtain ⟨-, ivBytes, saltBytes, envelope, hiv, hsalt, hseal, rfl⟩ := encryptAESText_some hs h
  have hlen := length_sealEnvelope hs hiv hsalt hseal
  have hopen := openEnvelope_sealEnvelope hs hi hiv hsalt hseal
  have hne : envelope ≠ [] := by
    intro he
    rw [he] at hlen
    simp only [List.length_nil] at hlen
    omega
  rw [decryptAESText_eq hs, fromHexString_toHexString, hopen, length_toHexString, hlen]
  congr 1
  by_cases hlong : data.length ≤ 976
  · by_cases hbuffer : decBuffer.region CRYPT_BUFFER_SIZE = none
    · rw [if_pos (Or.inr (Or.inr hbuffer)), if_neg (by simp [hbuffer])]
    · have hfits : ¬ (CRYPT_BUFFER_SIZE < 2 * (data.length + 48) ∨ envelope = [] ∨
          decBuffer.region CRYPT_BUFFER_SIZE = none) := by
        rintro (h | h | h)
        · rw [CRYPT_BUFFER_SIZE] at h
          omega
        · exact hne h
        · exact hbuffer h
      rw [if_neg hfits]
      by_cases hempty : data = []
      · subst hempty
        rfl
      · have hpos := List.length_pos_of_ne_nil hempty
        rw [if_pos ⟨hpos, hlong, Option.isSome_iff_ne_none.mpr hbuffer⟩]
        simp [Option.filter, hempty]
  · rw [if_pos (Or.inl (by rw [CRYPT_BUFFER_SIZE]; omega)), if_neg (by omega)]

/-- **Stored secrets.** Whatever the encoder returns for `data` is decoded to `data` again, for
all random bytes, exactly when `data` has 1 to 976 bytes and the decoder gets its buffer, or is so
long that the encoder returns nothing. -/
theorem secret_round_trip_iff (evp : Evp) (hs : evp.Sized) (hi : evp.Inverts) (decBuffer : Malloc)
    (data pwd : Str) :
    (∀ (encBuffer : Malloc) (iv salt : RandBytes) (c : Str),
      encryptAESText evp encBuffer iv salt data pwd = .ok (some c) →
      decryptAESText evp decBuffer c pwd = .ok (some data)) ↔
    (1 ≤ data.length ∧ data.length ≤ 976 ∧
      (decBuffer.region CRYPT_BUFFER_SIZE).isSome = true) ∨ 2000 < data.length := by
  constructor
  · intro h
    by_cases hlong : 2000 < data.length
    · exact Or.inr hlong
    obtain ⟨c, hc⟩ := encryptAESText_isSome hs hi (Vector.replicate 16 0) (Vector.replicate 16 0)
      data pwd (by omega)
    have hdec := h _ _ _ c hc
    rw [decryptAESText_of_encrypted hs hi decBuffer hc] at hdec
    split at hdec
    · next hgood => exact Or.inl hgood
    · cases hdec
  · rintro (hgood | hlong) encBuffer iv salt c hc
    · rw [decryptAESText_of_encrypted hs hi decBuffer hc, if_pos hgood]
    · have hle := (encryptAESText_some hs hc).1
      omega

end

/-- A secret of 977 bytes is encrypted and cannot be decrypted again. -/
theorem secret_lost :
    ∃ c, encryptAESText Sample.evp .zeroed (some (Vector.replicate 16 3))
        (some (Vector.replicate 16 4)) (List.replicate 977 97) (str "key") = .ok (some c) ∧
      decryptAESText Sample.evp .zeroed c (str "key") = .ok none := by
  have hlen : (List.replicate 977 (97 : UInt8)).length = 977 := List.length_replicate
  obtain ⟨c, hc⟩ := encryptAESText_isSome Sample.evp_sized Sample.evp_inverts
    (Vector.replicate 16 3) (Vector.replicate 16 4) (List.replicate 977 97) (str "key") (by omega)
  refine ⟨c, hc, ?_⟩
  rw [decryptAESText_of_encrypted Sample.evp_sized Sample.evp_inverts .zeroed hc]
  rw [if_neg (by omega)]

theorem secret_round_trip_sample :
    ∃ c, encryptAESText Sample.evp .zeroed (some (Vector.replicate 16 3))
        (some (Vector.replicate 16 4)) (str "secret") (str "key") = .ok (some c) ∧
      decryptAESText Sample.evp .zeroed c (str "key") = .ok (some (str "secret")) := by
  have hiff := secret_round_trip_iff Sample.evp Sample.evp_sized Sample.evp_inverts .zeroed
    (str "secret") (str "key")
  obtain ⟨c, hc⟩ := encryptAESText_isSome Sample.evp_sized Sample.evp_inverts
    (Vector.replicate 16 3) (Vector.replicate 16 4) (str "secret") (str "key") (by decide)
  exact ⟨c, hc, hiff.mpr (Or.inl ⟨by decide, by decide, rfl⟩) _ _ _ c hc⟩

end PcbuDesktop
