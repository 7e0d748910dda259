import EntityGateway.Text.Form

/-!
# Paging cookies

The remote service names the next page by a link. Somewhere in the link, form-coded once, stands an
attribute with the cookie that is to be handed back with the next request. The cookie is coded once
more on its own, and is taken as it stands.
-/

namespace EntityGateway.RemoteService

/-- What stands before a cookie. -/
def cookieStart : List Char := "pagingcookie='".toList

/-- The characters before the next quote, if one follows on the same line. -/
def upToQuote? : List Char → Option (List Char)
  | [] => none
  | c :: rest =>
    if c = '\'' then some []
    else if c = '\n' then none
    else (upToQuote? rest).map (c :: ·)

/-- The first cookie in a decoded link. -/
def firstCookie? : List Char → Option (List Char)
  | [] => none
  | c :: rest =>
    if cookieStart.isPrefixOf (c :: rest) then
      match upToQuote? ((c :: rest).drop cookieStart.length) with
      | some cookie => some cookie
      | none => firstCookie? rest
    else firstCookie? rest

/-- The cookie in a link. -/
def pagingCookie? (link : String) : Option String :=
  (firstCookie? (Text.formDecode link).toList).map String.ofList

end EntityGateway.RemoteService
