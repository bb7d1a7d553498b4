/-
BreakCheck/Proofs/Fingerprint.lean

What it means that a text is the fingerprint of a configuration.

`Spells text digest` says which text spells a digest: two lower-case hexadecimal digits for each
byte, the higher one first, zeros in front included.  One text does, the fingerprint
(`ofDigest_eq_iff`), and no text spells two digests (`Spells.digest_eq`).  So a text matches a
configuration exactly if it spells the digest of its canonical bytes.

Nothing is known about the digest here.  Two configurations have the same fingerprint exactly if
their canonical bytes have the same digest, and they have the same canonical bytes exactly if they
agree up to order.  Hence two that share a fingerprint without agreeing give two inputs that the
digest takes to the same bytes; neither the hexadecimal text nor the canonical form confuses them.

Main result: `isOfUnder_verdict`.
-/
import BreakCheck.Fingerprint
import BreakCheck.Proofs.CanonicalForm

namespace BreakCheck

namespace Fingerprint

/-! ### Texts that spell a digest -/

/-- The lower-case hexadecimal digits, each at the place that is its value. -/
def hexDigits : List Char :=
  ['0', '1', '2', '3', '4', '5', '6', '7', '8', '9', 'a', 'b', 'c', 'd', 'e', 'f']

/-- **A text spells a digest** in lower-case hexadecimal: it has two digits for each byte, and
nothing else. -/
structure Spells (text : String) (digest : Vector UInt8 32) : Prop where
  length : text.length = 64
  high : ∀ i : Fin 32,
    text.toList[2 * i.val]? = hexDigits[(digest.get i).toNat / 16]?
  low : ∀ i : Fin 32,
    text.toList[2 * i.val + 1]? = hexDigits[(digest.get i).toNat % 16]?

theorem hexDigits_getElem? {value : Nat} (small : value < 16) :
    hexDigits[value]? = some (Nat.digitChar value) := by
  have all : ∀ value < 16, hexDigits[value]? = some (Nat.digitChar value) := by decide
  exact all value small

/-- Different values have different digits. -/
theorem hexDigits_inj {value value' : Nat} (small : value < 16)
    (same : hexDigits[value]? = hexDigits[value']?) : value = value' := by
  have nodup : hexDigits.Nodup := by decide
  exact (List.getElem?_inj small nodup).1 same

/-- **The digits of bytes** stand two by two in the order of the bytes. -/
theorem getElem?_flatMap_byteDigits (bytes : List UInt8) (place : Nat) :
    (bytes.flatMap byteDigits)[2 * place]?
        = bytes[place]?.map (fun byte => Nat.digitChar (byte.toNat / 16))
      ∧ (bytes.flatMap byteDigits)[2 * place + 1]?
        = bytes[place]?.map (fun byte => Nat.digitChar (byte.toNat % 16)) := by
  induction bytes generalizing place with
  | nil => exact ⟨rfl, rfl⟩
  | cons byte rest ih =>
    cases place with
    | zero => exact ⟨rfl, rfl⟩
    | succ place => exact ih place

theorem length_flatMap_byteDigits (bytes : List UInt8) :
    (bytes.flatMap byteDigits).length = 2 * bytes.length := by
  induction bytes with
  | nil => rfl
  | cons byte rest ih =>
    rw [List.flatMap_cons, List.length_append, ih, List.length_cons, byteDigits]
    simp only [List.length_cons, List.length_nil]
    omega

theorem getElem?_toList (digest : Vector UInt8 32) (i : Fin 32) :
    digest.toList[i.val]? = some (digest.get i) := by
  simp [Vector.get]

/-- A fingerprint spells the digest that it is made of. -/
theorem spells_ofDigest (digest : Vector UInt8 32) : Spells (ofDigest digest).text digest where
  length := by
    rw [ofDigest, String.length_ofList, length_flatMap_byteDigits, Vector.length_toList]
  high i := by
    rw [ofDigest, String.toList_ofList, (getElem?_flatMap_byteDigits _ _).1, getElem?_toList,
      hexDigits_getElem? (Nat.div_lt_of_lt_mul (digest.get i).toNat_lt)]
    rfl
  low i := by
    rw [ofDigest, String.toList_ofList, (getElem?_flatMap_byteDigits _ _).2, getElem?_toList,
      hexDigits_getElem? (Nat.mod_lt _ (by decide))]
    rfl

namespace Spells

variable {text text' : String} {digest digest' : Vector UInt8 32}

/-- **One text spells a digest**: its digits are told place by place. -/
theorem text_eq (spells : Spells text digest) (spells' : Spells text' digest) :
    text = text' := by
  rw [← String.toList_inj]
  apply List.ext_getElem?
  intro place
  by_cases inside : place < 64
  · have half : place / 2 < 32 := by omega
    rcases Nat.mod_two_eq_zero_or_one place with even | odd
    · have place_eq : place = 2 * (⟨place / 2, half⟩ : Fin 32).val := by dsimp only; omega
      rw [place_eq, spells.high, spells'.high]
    · have place_eq : place = 2 * (⟨place / 2, half⟩ : Fin 32).val + 1 := by dsimp only; omega
      rw [place_eq, spells.low, spells'.low]
  · rw [List.getElem?_eq_none, List.getElem?_eq_none]
    · rw [String.length_toList, spells'.length]
      omega
    · rw [String.length_toList, spells.length]
      omega

/-- **A text spells one digest**: every byte is told by its two digits. -/
theorem digest_eq (spells : Spells text digest) (spells' : Spells text digest') :
    digest = digest' := by
  apply Vector.ext
  intro i small
  have high := hexDigits_inj (Nat.div_lt_of_lt_mul (UInt8.toNat_lt _))
    ((spells.high ⟨i, small⟩).symm.trans (spells'.high ⟨i, small⟩))
  have low := hexDigits_inj (Nat.mod_lt _ (by decide))
    ((spells.low ⟨i, small⟩).symm.trans (spells'.low ⟨i, small⟩))
  show digest.get ⟨i, small⟩ = digest'.get ⟨i, small⟩
  apply UInt8.toNat_inj.1
  omega

end Spells

/-- **The fingerprint** of a digest is the text that spells it. -/
theorem ofDigest_eq_iff (digest : Vector UInt8 32) (text : String) :
    ofDigest digest = ⟨text⟩ ↔ Spells text digest := by
  constructor
  · intro same
    have spells := spells_ofDigest digest
    rw [same] at spells
    exact spells
  · intro spells
    rw [← (spells_ofDigest digest).text_eq spells]

theorem ofDigest_inj {digest digest' : Vector UInt8 32} :
    ofDigest digest = ofDigest digest' ↔ digest = digest' := by
  rw [ofDigest_eq_iff digest (ofDigest digest').text]
  constructor
  · intro spells
    exact spells.digest_eq (spells_ofDigest digest')
  · rintro rfl
    exact spells_ofDigest digest

/-! ### Fingerprints of configurations -/

section

variable (digest : List UInt8 → Vector UInt8 32) {config : Config} {bytes : ByteArray}

theorem ofConfigUnder_eq (form : canonicalForm (some config) = .ok bytes) :
    ofConfigUnder digest config = .ok (ofDigest (digest bytes.data.toList)) := by
  rw [ofConfigUnder, form]
  rfl

/-- **Matching** is having the very same text, and it never fails. -/
theorem isOfUnder_eq (form : canonicalForm (some config) = .ok bytes) (fingerprint : Fingerprint) :
    fingerprint.isOfUnder digest config
      = .ok (decide (ofDigest (digest bytes.data.toList) = fingerprint)) := by
  rw [isOfUnder, ofConfigUnder_eq digest form]
  rfl

end

end Fingerprint

/-- The canonical bytes of two configurations are the same exactly if these agree up to order. -/
theorem bytes_eq_iff_sameUpToOrder {a b : Config} {bytes bytes' : ByteArray}
    (form : canonicalForm (some a) = .ok bytes) (form' : canonicalForm (some b) = .ok bytes') :
    bytes = bytes' ↔ a.SameUpToOrder b := by
  rw [canonicalForm_eq, Except.ok.injEq] at form form'
  rw [← form, ← form', toUTF8_ofList_inj, canonicalText_eq_iff]

namespace Fingerprint

/-- **What a match means**, whatever the digest.  A text is the fingerprint of a configuration
exactly if it spells the digest of the canonical bytes in lower-case hexadecimal, and nothing else
is said of any other text.  The fingerprint of a configuration is that of each one that agrees with
it up to order; and if it is that of one that does not, then their canonical bytes are two inputs
with the same digest. -/
theorem isOfUnder_verdict (digest : List UInt8 → Vector UInt8 32) (a b : Config) :
    ∃ bytes bytes' name,
      canonicalForm (some a) = .ok bytes ∧ canonicalForm (some b) = .ok bytes'
        ∧ ofConfigUnder digest a = .ok name
        ∧ (∀ text, (Spells text (digest bytes.data.toList) →
              isOfUnder digest ⟨text⟩ a = .ok true)
            ∧ (¬ Spells text (digest bytes.data.toList) →
              isOfUnder digest ⟨text⟩ a = .ok false))
        ∧ (a.SameUpToOrder b → name.isOfUnder digest b = .ok true)
        ∧ (name.isOfUnder digest b = .ok true → ¬ a.SameUpToOrder b →
          bytes.data.toList ≠ bytes'.data.toList
            ∧ digest bytes.data.toList = digest bytes'.data.toList) := by
  obtain ⟨bytes, form⟩ : ∃ bytes, canonicalForm (some a) = .ok bytes := ⟨_, canonicalForm_eq a⟩
  obtain ⟨bytes', form'⟩ : ∃ bytes, canonicalForm (some b) = .ok bytes := ⟨_, canonicalForm_eq b⟩
  refine ⟨bytes, bytes', _, form, form', ofConfigUnder_eq digest form, ?_, ?_, ?_⟩
  · intro text
    rw [isOfUnder_eq digest form, ← ofDigest_eq_iff]
    constructor
    · intro same
      rw [decide_eq_true same]
    · intro differ
      rw [decide_eq_false differ]
  · intro agree
    rw [isOfUnder_eq digest form', (bytes_eq_iff_sameUpToOrder form form').2 agree,
      decide_eq_true rfl]
  · intro matching apart
    rw [isOfUnder_eq digest form', Except.ok.injEq, decide_eq_true_iff, ofDigest_inj] at matching
    refine ⟨fun same => apart ?_, matching.symm⟩
    rw [← bytes_eq_iff_sameUpToOrder form form']
    exact ByteArray.ext (Array.toList_inj.1 same)

end Fingerprint

end BreakCheck
