import GossipCluster.Digest.Hmac
import GossipCluster.Text.Hex

namespace GossipCluster.Token

def utf8 (s : String) : List UInt8 := s.toUTF8.data.toList

def joinSubject (cluster nodeId address : String) : List UInt8 :=
  utf8 cluster ++ utf8 "\n" ++ utf8 nodeId ++ utf8 "\n" ++ utf8 address

def adminSubject : List UInt8 := utf8 "cluster-admin"

def sign (secret : String) (subject : List UInt8) : List UInt8 := Hmac.mac (utf8 secret) subject

def join (secret cluster nodeId address : String) : String :=
  Text.Hex.encode (sign secret (joinSubject cluster nodeId address))

def admin (secret : String) : String := Text.Hex.encode (sign secret adminSubject)

-- An empty secret accepts every token.
def accepts (secret : String) (subject : List UInt8) (token : String) : Bool :=
  secret = "" || Text.Hex.decode token.toList = some (sign secret subject)

def acceptsJoin (secret cluster nodeId address token : String) : Bool :=
  accepts secret (joinSubject cluster nodeId address) token

def acceptsAdmin (secret : Option String) (token : String) : Bool :=
  accepts (secret.getD "") adminSubject token

end GossipCluster.Token
