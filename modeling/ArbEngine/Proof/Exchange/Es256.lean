import ArbEngine.Exchange.Coinbase
import ArbEngine.Lib.BigEndian

/-!
# The coordinates of a signature

A coordinate is stripped of the zeros in front, all but the last where there is nothing else, and
padded with zeros to the length it must have. Both leave its value alone, so a signature is read
back from its sixty-four bytes.
-/

namespace ArbEngine

open BigEndian

variable {target coord r s raw : List UInt8}

theorem firstNonZero_of_ne_zero {byte : UInt8} {rest : List UInt8} (h : byte ≠ 0) :
    firstNonZero (byte :: rest) = 0 := by
  rw [firstNonZero, List.findIdx?_cons, if_pos (by simpa using h), Option.getD_some]

theorem firstNonZero_zero_cons {byte : UInt8} {rest : List UInt8} :
    firstNonZero (0 :: byte :: rest) = firstNonZero (byte :: rest) + 1 := by
  rw [firstNonZero, List.findIdx?_cons, if_neg (by simp), firstNonZero]
  cases (byte :: rest).findIdx? (· != 0) with
  | none => rfl
  | some first => rfl

/-- What is left of a coordinate has its value, and is as long as that needs. -/
theorem drop_firstNonZero (coord : List UInt8) :
    value (coord.drop (firstNonZero coord)) = value coord ∧
      ((coord.drop (firstNonZero coord)).length ≤ 32 ↔ value coord < 2 ^ 256) := by
  have size : (2 : ℕ) ^ 256 = 256 ^ 32 := by norm_num
  induction coord with
  | nil => exact ⟨rfl, iff_of_true (by simp) (by simp)⟩
  | cons byte rest ih =>
    by_cases counts : byte = 0
    · subst counts
      cases rest with
      | nil => exact ⟨rfl, iff_of_true (by decide) (by decide)⟩
      | cons next rest =>
        have same : value (0 :: next :: rest) =
            value (next :: rest) := value_replicate_append (n := 1)
        rw [firstNonZero_zero_cons, List.drop_succ_cons, same]
        exact ih
    · rw [firstNonZero_of_ne_zero counts, List.drop_zero, size]
      exact ⟨rfl, length_le_iff (by simpa using counts)⟩

/-- **A coordinate keeps its value**, and is taken where thirty-two bytes hold it. -/
theorem appendEs256Coord_eq (target coord : List UInt8) :
    (value coord < 2 ^ 256 ∧ ∃ bytes, appendEs256Coord target coord = .ok (target ++ bytes) ∧
        bytes.length = 32 ∧ value bytes = value coord) ∨
      (2 ^ 256 ≤ value coord ∧ appendEs256Coord target coord =
        .err (CanonicalSerializer.serializationError
          "Coinbase JWT coordinate is larger than ES256 size")) := by
  obtain ⟨same, short⟩ := drop_firstNonZero coord
  unfold appendEs256Coord
  rcases lt_or_ge (value coord) (2 ^ 256) with small | large
  · refine .inl ⟨small, List.replicate (32 - (coord.drop (firstNonZero coord)).length) 0 ++
      coord.drop (firstNonZero coord), ?_, ?_, ?_⟩
    · rw [if_neg (not_lt.mpr (short.mpr small)), List.append_assoc]
    · rw [List.length_append, List.length_replicate]
      have := short.mpr small
      omega
    · rw [value_replicate_append, same]
  · exact .inr ⟨large, if_pos (not_le.mp (short.not.mpr (not_lt.mpr large)))⟩

/-- The two numbers that sixty-four bytes stand for. -/
def readSignature (raw : List UInt8) : ℕ × ℕ := (value (raw.take 32), value (raw.drop 32))

theorem rawSignature_eq_ok {r s raw : List UInt8} (h : rawSignature r s = .ok raw) :
    raw.length = 64 ∧ readSignature raw = (value r, value s) := by
  obtain ⟨first, hfirst, h⟩ := Outcome.bind_eq_ok.mp h
  rcases appendEs256Coord_eq [] r with ⟨-, bytes, ok, length, same⟩ | ⟨-, err⟩
  · obtain rfl := Outcome.ok.inj (ok.symm.trans hfirst)
    rw [List.nil_append] at h
    rcases appendEs256Coord_eq bytes s with ⟨-, bytes', ok', length', same'⟩ | ⟨-, err⟩
    · obtain rfl := Outcome.ok.inj (ok'.symm.trans h)
      refine ⟨by rw [List.length_append, length, length'], ?_⟩
      rw [readSignature, List.take_left' length, List.drop_left' length, same, same']
    · cases err.symm.trans h
  · cases err.symm.trans hfirst

/-- **A token ends in the sixty-four bytes of its signature.** -/
theorem coinbaseJwt_eq_ok {client : ExchangeClient} {crates : CoinbaseCrates}
    {keyName secret nonce method requestPath token : String} {now : ℕ}
    (h : client.coinbaseJwt crates keyName secret now nonce method requestPath = .ok token) :
    ∃ signingInput r s raw,
      crates.sign (replaceText secret "\\n" "\n") signingInput = .ok (r, s) ∧
      token = signingInput ++ "." ++ crates.encode raw ∧ raw.length = 64 ∧
      readSignature raw = (value r, value s) := by
  obtain ⟨host, -, h⟩ := Outcome.bind_eq_ok.mp h
  obtain ⟨header, -, h⟩ := Outcome.bind_eq_ok.mp h
  obtain ⟨claims, -, h⟩ := Outcome.bind_eq_ok.mp h
  cases signed : crates.sign (replaceText secret "\\n" "\n")
      (crates.encode header ++ "." ++ crates.encode claims) with
  | error failed =>
    simp only [signed] at h
    cases h
  | ok numbers =>
    simp only [signed] at h
    obtain ⟨raw, hraw, h⟩ := Outcome.bind_eq_ok.mp h
    obtain ⟨length, read⟩ := rawSignature_eq_ok hraw
    exact ⟨_, numbers.1, numbers.2, raw, signed, (Outcome.ok.inj h).symm, length, read⟩

theorem rawSignature_ok_iff {r s : List UInt8} :
    (∃ raw, rawSignature r s = .ok raw) ↔ value r < 2 ^ 256 ∧ value s < 2 ^ 256 := by
  unfold rawSignature
  rcases appendEs256Coord_eq [] r with ⟨small, bytes, ok, -, -⟩ | ⟨large, err⟩
  · rw [ok, Outcome.ok_bind, List.nil_append]
    rcases appendEs256Coord_eq bytes s with ⟨small', bytes', ok', -, -⟩ | ⟨large', err⟩
    · exact iff_of_true ⟨_, ok'⟩ ⟨small, small'⟩
    · refine iff_of_false ?_ (fun h => absurd h.2 (not_lt.mpr large'))
      rintro ⟨raw, h⟩
      cases err.symm.trans h
  · refine iff_of_false ?_ (fun h => absurd h.1 (not_lt.mpr large))
    rw [err]
    rintro ⟨raw, h⟩
    cases h

/-- **Coordinates keep their value.** A coordinate is taken exactly if it stands for less than
    `2 ^ 256`, and puts thirty-two bytes of that value after what was there; so a signature has
    sixty-four bytes, and the two numbers are read back from them. -/
theorem appendEs256Coord_keeps (target coord r s : List UInt8) :
    ((∃ target', appendEs256Coord target coord = .ok target') ↔ value coord < 2 ^ 256) ∧
      (∀ target', appendEs256Coord target coord = .ok target' →
        ∃ bytes, target' = target ++ bytes ∧ bytes.length = 32 ∧ value bytes = value coord) ∧
      ((∃ raw, rawSignature r s = .ok raw) ↔ value r < 2 ^ 256 ∧ value s < 2 ^ 256) ∧
      ∀ raw, rawSignature r s = .ok raw →
        raw.length = 64 ∧ readSignature raw = (value r, value s) := by
  refine ⟨?_, ?_, rawSignature_ok_iff, fun raw h => rawSignature_eq_ok h⟩
  all_goals rcases appendEs256Coord_eq target coord with ⟨small, bytes, ok, length, same⟩ |
    ⟨large, err⟩
  · exact iff_of_true ⟨_, ok⟩ small
  · refine iff_of_false ?_ (not_lt.mpr large)
    rintro ⟨target', h⟩
    cases err.symm.trans h
  · intro target' h
    obtain rfl := Outcome.ok.inj (ok.symm.trans h)
    exact ⟨bytes, rfl, length, same⟩
  · intro target' h
    cases err.symm.trans h

/-- No bytes, and a coordinate of zeros only, are the number zero. -/
example : appendEs256Coord [7] [] = .ok (7 :: List.replicate 32 0) ∧
    appendEs256Coord [7] [0, 0] = .ok (7 :: List.replicate 32 0) := by
  decide

end ArbEngine
