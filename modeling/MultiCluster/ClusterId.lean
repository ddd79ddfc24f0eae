import MultiCluster.Failure

/-!
# Cluster identities

A cluster's identity becomes part of the names of objects. It has at least two characters, which are lower-case
Latin letters, digits, points and hyphens, and its first and last character are letters or digits.
-/

namespace MultiCluster.ClusterId

/-- A lower-case Latin letter or a digit. -/
def isAlphanumeric (c : Char) : Bool :=
  c.isLower || c.isDigit

/-- A character that may stand in an identity. -/
def isAllowed (c : Char) : Bool :=
  isAlphanumeric c || c == '.' || c == '-'

/-- The failure for an identity. -/
def invalid (id reason : String) : Failure :=
  .malformed "clusterID" (Text.quoted id ++ " " ++ reason)

/-- Checks an identity. -/
def validate (id : String) : Except Failure Unit :=
  let cs := id.toList
  if id.utf8ByteSize < 2 then .error (invalid id "must be at least two characters long")
  else if !cs.all isAllowed then
    .error (invalid id "may only contain lowercase alphanumerics, '.' and '-'")
  else if !(cs.head?.any isAlphanumeric && cs.getLast?.any isAlphanumeric) then
    .error (invalid id "must start and end with a lowercase alphanumeric")
  else .ok ()

end MultiCluster.ClusterId
