import GossipCluster.Config.Basic
import GossipCluster.Text.Hidden

namespace GossipCluster.Config

def escape (c : Char) : String :=
  if c.toNat = 0 then "\\0"
  else if c = '\t' then "\\t"
  else if c = '\r' then "\\r"
  else if c = '\n' then "\\n"
  else if c = '"' then "\\\""
  else if c = '\\' then "\\\\"
  else if Text.isHidden c then "\\u\x7b" ++ .ofList (Nat.toDigits 16 c.toNat) ++ "\x7d"
  else String.singleton c

def quoted (s : String) : String := "\"" ++ String.join (s.toList.map escape) ++ "\""

def listText (l : List String) : String := "[" ++ ", ".intercalate (l.map quoted) ++ "]"

def redacted : Option String → String
  | some _ => "Some(\"<redacted>\")"
  | none => "None"

def Security.logText (s : Security) : String :=
  "SecurityConfig \x7b join_secret: " ++ redacted s.joinSecret ++
    ", admin_secret: " ++ redacted s.adminSecret ++
    ", allowed_addresses: " ++ listText s.allowedAddresses ++
    ", allowed_datacenters: " ++ listText s.allowedDatacenters ++ " \x7d"

end GossipCluster.Config
