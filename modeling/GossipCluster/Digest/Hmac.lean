import GossipCluster.Digest.Sha256

namespace GossipCluster.Hmac

def blockSize : Nat := 64

-- A key that is longer than a block is hashed first.
def blockKey (key : List UInt8) : List UInt8 :=
  let key := if key.length > blockSize then Sha256.hash key else key
  key ++ List.replicate (blockSize - key.length) 0

def mac (key message : List UInt8) : List UInt8 :=
  let key := blockKey key
  Sha256.hash (key.map (· ^^^ 0x5c) ++ Sha256.hash (key.map (· ^^^ 0x36) ++ message))

end GossipCluster.Hmac
