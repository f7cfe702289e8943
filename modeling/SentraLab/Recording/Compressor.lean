import SentraLab.Basic

/-!
# The batch compressor

Model of `recording/compressor.rs`. The codec itself is zstd, outside the sources: a
`Codec` carries `zstd::encode_all` (the bytes of a payload at an integer level) together
with the `serde_json` serialization of an event batch, so that the recorder can be stated
for every codec. A failure of either is a choice of the run, not of the codec.
`zstd::decode_all`, which `decompress` calls, is a parameter of `decompress` in the same way.
-/

namespace SentraLab.Recording

/-- `CompressionLevel`. -/
inductive CompressionLevel where
  | fast
  | balanced
  | best
deriving DecidableEq, Repr

/-- `CompressionLevel::as_i32`: the zstd level. -/
def CompressionLevel.asI32 : CompressionLevel → Int
  | .fast => 1
  | .balanced => 3
  | .best => 19

/-- `Compressor::estimate_compressed_size`. -/
def CompressionLevel.estimateCompressedSize (level : CompressionLevel) (len : Nat) : Nat :=
  match level with
  | .fast => len / 5
  | .balanced => len / 10
  | .best => len / 15

/-- The external encoders the recorder's `flush_batch` calls: `serde_json::to_vec` on a
batch, and `zstd::encode_all` at a level. -/
structure Codec (E : Type) where
  serialize : List E → Bytes
  encodeAll : Bytes → Int → Bytes

/-- `Compressor::compress` at a level. -/
def Codec.compress {E : Type} (codec : Codec E) (level : CompressionLevel) (data : Bytes) :
    Bytes :=
  codec.encodeAll data level.asI32

end SentraLab.Recording
