import Mathlib.Tactic.Common

/-!
# Codecs

A `Codec` turns messages into byte strings and back. The only law is that
decoding undoes encoding; nothing is said about byte strings no encoder wrote.
-/

universe u

/-- An encoder and a decoder, faithful to each other. -/
structure Codec (α : Type u) where
  encode : α → List UInt8
  decode : List UInt8 → Option α
  decode_encode : ∀ a, decode (encode a) = some a

attribute [simp] Codec.decode_encode
