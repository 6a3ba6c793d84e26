import PacketBrowser.Protocol.Message

/-!
# Decompression

The decoder of the compression library is a parameter: for compressed data it gives the
results of its reads one after the other, each a piece of output or an error, and after
the last one the reads give nothing.
-/

namespace PacketBrowser.Protocol

/-- Ten mebibytes. -/
def maxDecompressedSize : Nat := 10485760

/-- Why data is not compressed or decompressed. -/
inductive CompressionError where
  | compressFailed (reason : Text)
  | decompressFailed (reason : Text)
  | tooLarge
  deriving DecidableEq, Repr

/-- The text shown for an error. -/
def CompressionError.display : CompressionError → Text
  | .compressFailed reason => "Compression failed: ".toList ++ reason
  | .decompressFailed reason => "Decompression failed: ".toList ++ reason
  | .tooLarge => "Decompressed data too large".toList

/-- The results of reading the decompressed form of some data. -/
abbrev Decompressor := Bytes → List (Except Text Bytes)

/-- Collect the pieces up to a read of nothing, an error, or more than the limit. -/
def collectOutput (output : Bytes) : List (Except Text Bytes) → Except CompressionError Bytes
  | [] => .ok output
  | .error reason :: _ => .error (.decompressFailed reason)
  | .ok [] :: _ => .ok output
  | .ok (first :: rest) :: later =>
    if output.length + (first :: rest).length > maxDecompressedSize then .error .tooLarge
    else collectOutput (output ++ first :: rest) later

/-- What the decompressor gives, read by read, as long as it is not too much. -/
def brotliDecompress (decompressor : Decompressor) (data : Bytes) : Except CompressionError Bytes :=
  collectOutput [] (decompressor data)

/-- What is collected never exceeds the limit. -/
theorem collectOutput_bounded (output : Bytes) (reads : List (Except Text Bytes))
    (within : output.length ≤ maxDecompressedSize) (result : Bytes)
    (collected : collectOutput output reads = .ok result) : result.length ≤ maxDecompressedSize := by
  induction reads generalizing output with
  | nil =>
    obtain rfl := Except.ok.inj collected
    exact within
  | cons read later inductionHypothesis =>
    rcases read with reason | _ | ⟨first, rest⟩
    · exact absurd collected (by simp [collectOutput])
    · obtain rfl := Except.ok.inj collected
      exact within
    · unfold collectOutput at collected
      split at collected
      · exact absurd collected (by simp)
      · rename_i fits
        apply inductionHypothesis _ _ collected
        rw [List.length_append]
        omega

/-- What is accepted is not larger than the limit. -/
theorem brotliDecompress_bounded {decompressor : Decompressor} {data result : Bytes}
    (accepted : brotliDecompress decompressor data = .ok result) :
    result.length ≤ maxDecompressedSize :=
  collectOutput_bounded [] _ (Nat.zero_le _) result accepted

end PacketBrowser.Protocol
