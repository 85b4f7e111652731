import NodeFlags.Digest.Sha256
import NodeFlags.Flag.Map

/-!
# Fingerprints of flag maps

The fingerprint of a flag map is the SHA-256 digest of its rendered line. It hangs
on the flags alone and not on how the map came about.
-/

namespace NodeFlags.FlagMap

/-- The digest of the rendered flags, in hexadecimal digits. -/
def fingerprint (flags : FlagMap) : String :=
  Sha256.hexDigest flags.render.toUTF8.toList

end NodeFlags.FlagMap
