import ComponentQueries.Settings
import ComponentQueries.Text.Bytes

/-! A quick test that rules out files without any query or capability. -/
namespace ComponentQueries

def occursIn (needle : List Char) : List Char → Bool
  | [] => needle.isEmpty
  | c :: rest => needle.isPrefixOf (c :: rest) || occursIn needle rest

namespace Prefilter

/-- The texts one of which a file must contain to export a capability. -/
def featureMarkers : List String :=
  ["gatsby-plugin-image", "getServerData", "config", "Head"]

/-- The texts one of which a file must contain to have any result. The hook and
the element take a tagged template, so the tag is enough for them. -/
def markers (tagName : String) : List String :=
  tagName :: featureMarkers

/-- Tests whether a text contains one of the markers. -/
def passes (text : List Char) (markers : List String) : Bool :=
  markers.any fun marker => occursIn marker.toList text

end Prefilter

/-- The key of a file version in the cache: the digest of the bytes of its path
followed by those of its text. -/
def contentKey (digest : List UInt8 → String) (path text : String) : String :=
  digest (Text.toBytes path ++ Text.toBytes text)

end ComponentQueries
