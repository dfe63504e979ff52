/-!
# Reversi.Web.Reference

What the service tells the people who write clients for it.

* `Reference`: the four places where they can look.
* `Reference.path`: where they are.
-/

namespace Reversi

inductive Reference where
  | schema
  | browser
  | reader
  | signIn
  deriving DecidableEq

namespace Reference

def all : List Reference := [schema, browser, reader, signIn]

def path : Reference → String
  | schema => "/openapi.json"
  | browser => "/docs"
  | reader => "/redoc"
  | signIn => "/docs/oauth2-redirect"

end Reference

end Reversi
