import ThemeLint.Text.Letter
import ThemeLint.Uri.Host
import ThemeLint.Uri.Percent

set_option autoImplicit false

namespace ThemeLint.Uri

def fileScheme : List Char := "file://".toList

def isIgnored (c : Char) : Bool := c == '\t' || c == '\r' || c == '\n'

def endsHost (c : Char) : Bool := c == '/' || c == '?' || c == '#'

def pathPart (s : List Char) : List Char :=
  (splitFirst '?' (splitFirst '#' s).1).1

def asciiLower (c : Char) : Char :=
  if 'A' ≤ c ∧ c ≤ 'Z' then Char.ofNat (c.toNat + 32) else c

def isLocalhost (host : List Char) : Bool := host.map asciiLower == "localhost".toList

def isDrive : List Char → Bool
  | ['/', c, ':'] => Text.isLetter c
  | '/' :: c :: ':' :: '/' :: _ => Text.isLetter c
  | _ => false

/-- The path on a host; on this machine a drive letter stands without the slash before it. -/
def hostedPath (host path : List Char) : List Char :=
  if host = [] ∨ isLocalhost host then
    if isDrive path then path.drop 1 else path
  else '/' :: '/' :: host ++ path

def documentPath (uri : String) : Except Fault String :=
  let cs := uri.toList
  if !fileScheme.isPrefixOf cs then .ok uri
  else
    let rest := (cs.drop fileScheme.length).filter (!isIgnored ·)
    let host := rest.takeWhile (!endsHost ·)
    match checkHost host with
    | .error fault => .error fault
    | .ok () =>
      .ok (String.ofList (hostedPath host (percentDecode (pathPart (rest.drop host.length)))))

end ThemeLint.Uri
