import QuorumRate.Url.Reader
/-! References: what a text means at an address that refers to it. A part of an address can be
changed, and one that is relative has the parts that it lacks from the address where it stands. -/
namespace QuorumRate.Url

def spelled (u : Url) : Spelled :=
  ⟨u.scheme.toList, u.authority.toList, u.path.toList, u.query.map String.toList,
    u.fragment.map String.toList⟩

def Spelled.text (s : Spelled) : String :=
  String.ofList <|
    (if s.scheme.isEmpty then [] else s.scheme ++ [':']) ++
      (if s.authority.isEmpty then [] else ['/', '/'] ++ s.authority) ++ s.path ++
      s.query.elim [] ('?' :: ·) ++ s.fragment.elim [] ('#' :: ·)

/-! Parts that are read again are checked before. -/

def longSection? (s : Spelled) : Option Section :=
  let isLong := fun (part : List Char) => maxLength < part.length
  if isLong s.authority then some .authority
  else if isLong s.path then some .path
  else if s.query.any isLong then some .query
  else if s.fragment.any isLong then some .fragment
  else none

def Spelled.check (s : Spelled) : Except Fault Unit :=
  match longSection? s, s.fragment.bind control? with
  | some part, _ => .error (.sectionTooLong part)
  | none, some (c, position) => .error (.fragmentControl c position)
  | none, none => .ok ()

def withHost (u : Url) (host : String) : Except Fault Url := do
  u.spelled.check
  Spelled.read { u with host }.spelled

def withFragment (u : Url) (fragment : List Char) : Except Fault Url := do
  let s := { u.spelled with fragment := some fragment }
  s.check
  s.read

def hasCredentials (u : Url) : Bool := u.userinfo.toList.any (· != ':') || 1 < u.userinfo.length

def withoutCredentials (u : Url) : Except Fault Url := do
  u.spelled.check
  Spelled.read { u with userinfo := "" }.spelled

/-! Relative addresses. -/

def parametricSchemes : List String :=
  ["", "ftp", "http", "https", "imap", "mms", "prospero", "rtsp", "rtsps", "rtspu", "sftp", "shttp"]

def relativeSchemes : List String :=
  parametricSchemes ++ ["file", "gopher", "nntp", "svn", "svn+ssh", "wais", "ws", "wss"]

def cutParameters (path : List Char) : List Char × List Char :=
  let last := (path.reverse.takeWhile (· != '/')).reverse
  let (name, parameters) := cutAt ";" last
  (path.take (path.length - last.length) ++ name, parameters.drop 1)

def pathFrom (path relative : List Char) : List Char :=
  let own := pieces (· == '/') relative
  let beside := ((pieces (· == '/') path).drop 1).dropLast
  let segments :=
    if relative.head? = some '/' then own
    else [] :: (beside ++ own.dropLast).filter (!·.isEmpty) ++ own.getLast?.toList
  let isDirectory := segments.getLast?.any fun last => last = ['.'] || last = ['.', '.']
  let found := (segments.foldl step []).reverse ++ if isDirectory then [[]] else []
  let joined := List.intercalate ['/'] found
  if joined.head? = some '/' then joined else '/' :: joined

def cutParametersFor (scheme path : List Char) : List Char × List Char :=
  if parametricSchemes.contains (String.ofList scheme) then cutParameters path else (path, [])

def withParameters (path parameters : List Char) : List Char :=
  if parameters.isEmpty then path else path ++ ';' :: parameters

def fill (base own : Spelled) : Spelled :=
  let (path, parameters) := cutParametersFor base.scheme own.path
  let (basePath, baseParameters) := cutParametersFor base.scheme base.path
  let query := own.query.filter (!·.isEmpty)
  let fragment := own.fragment.filter (!·.isEmpty)
  if !own.authority.isEmpty then
    ⟨base.scheme, own.authority, withParameters path parameters, query, fragment⟩
  else if path.isEmpty && parameters.isEmpty then
    ⟨base.scheme, base.authority, withParameters basePath baseParameters,
      query.or (base.query.filter (!·.isEmpty)), fragment⟩
  else
    ⟨base.scheme, base.authority, withParameters (pathFrom basePath path) parameters, query,
      fragment⟩

def resolve (here there : Url) : Except Fault Url :=
  let base := here.spelled
  let own := Spelled.ofText there.text.toList
  let scheme := if own.scheme.isEmpty then base.scheme else own.scheme.map Char.toLower
  ofText <|
    if there.text = "" then here.text
    else if scheme = base.scheme && relativeSchemes.contains (String.ofList scheme) then
      (fill base own).text
    else there.text

/-- Where a redirect from an address to another one leads. One with a scheme but without a host
stays at the host, a relative one is resolved, and the fragment is kept unless there is a new
one. -/
def redirect (here there : Url) : Except Fault Url := do
  let there ←
    if there.scheme != "" && there.host = "" then there.withHost here.host else .ok there
  let there ← if there.isAbsolute then .ok there else here.resolve there
  let kept := here.fragment.getD ""
  if kept != "" && there.fragment.getD "" = "" then there.withFragment (unescape kept)
  else return there

end QuorumRate.Url
