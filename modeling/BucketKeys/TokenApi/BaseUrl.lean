import BucketKeys.Url.Read

/-!
Where the token service is: a URL below which its resources have their paths.
-/

namespace BucketKeys.TokenApi

inductive BaseUrlFault where
  | malformed (text : String)
  | rootless (url : Url.Rootless)
  deriving DecidableEq, Repr

namespace BaseUrlFault

def message : BaseUrlFault → String
  | malformed text => "Invalid Cloudflare API URL: " ++ text
  | rootless url => "Invalid Cloudflare API URL: " ++ url.text ++ " cannot carry a path"

end BaseUrlFault

namespace BaseUrl

def read (text : String) : Except BaseUrlFault Url.Rooted :=
  match Url.read? text with
  | none => .error (.malformed text)
  | some (.rootless url) => .error (.rootless url)
  | some (.rooted url) => .ok url

end BaseUrl

end BucketKeys.TokenApi
