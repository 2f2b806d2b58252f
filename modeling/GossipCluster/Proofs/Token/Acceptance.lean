import GossipCluster.Proofs.Text.Hex
import GossipCluster.Token

namespace GossipCluster.Token

variable {secret token : String} {subject : List UInt8}

theorem accepts_iff (h : secret ≠ "") :
    accepts secret subject token ↔ token.toLower = Text.Hex.encode (sign secret subject) := by
  have lower : token.toLower.toList = token.toList.map Char.toLower := String.toList_map
  have reads : accepts secret subject token ↔ Text.Hex.decode token.toList = some (sign secret subject) := by
    simp [accepts, h]
  rw [reads, Text.Hex.decode_eq_some_iff, ← lower, String.toList_inj]

theorem accepts_encode : accepts secret subject (Text.Hex.encode (sign secret subject)) := by
  simp [accepts, Text.Hex.decode_toList_encode]

theorem accepts_encode_iff (h : secret ≠ "") {subject' : List UInt8} :
    accepts secret subject' (Text.Hex.encode (sign secret subject)) ↔ sign secret subject = sign secret subject' := by
  simp [accepts, Text.Hex.decode_toList_encode, h]

end GossipCluster.Token
