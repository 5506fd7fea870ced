import ServiceAdmin.Url.Parse

/-!
# Origins

The origin of a URL is its scheme, host and port, for the schemes of servers; a `blob:` URL has the
origin of the URL that it holds.  Every other origin is opaque and is written `null`.
-/

namespace ServiceAdmin.Url

/-- The schemes of servers. -/
def hasTupleOrigin (scheme : String) : Bool :=
  ["http", "https", "ws", "wss", "ftp"].contains scheme

/-- The origin of a URL that holds others to the given depth. -/
def originWithin : Nat → Url → String
  | depth, url =>
    if hasTupleOrigin url.scheme then
      url.scheme ++ "://" ++ (url.host.getD .empty).text ++ portText url.port
    else match depth with
      | 0 => "null"
      | depth + 1 =>
        if url.scheme = "blob" then
          match parse url.path.text with
          | .ok inner => originWithin depth inner
          | .error _ => "null"
        else "null"

/-- The written form of the origin. -/
def origin (url : Url) : String := originWithin url.path.text.length url

end ServiceAdmin.Url
