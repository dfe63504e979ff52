import Reversi.Web.Reference

/-!
# Reversi.Web.ReferencePage

The documents for the people who write clients.

* `Reference.browserLines`, `Reference.readerLines`, `Reference.signInLines`: line by line.
* `Reference.page?`: a document; the schema is none.
-/

namespace Reversi
namespace Reference

def title : String := "Othello"

def secure (address : String) : String := "https://" ++ address

/-- Calls can be tried out here. -/
def browserLines : List String := [
    "",
    "    <!DOCTYPE html>",
    "    <html>",
    "    <head>",
    "    <meta name=\"viewport\" content=\"width=device-width, initial-scale=1.0\">",
    "    <link type=\"text/css\" rel=\"stylesheet\" href=\"" ++ secure "cdn.jsdelivr.net/npm/swagger-ui-dist@5/swagger-ui.css" ++ "\">",
    "    <link rel=\"shortcut icon\" href=\"" ++ secure "fastapi.tiangolo.com/img/favicon.png" ++ "\">",
    "    <title>" ++ title ++ " - Swagger UI</title>",
    "    </head>",
    "    <body>",
    "    <div id=\"swagger-ui\">",
    "    </div>",
    "    <script src=\"" ++ secure "cdn.jsdelivr.net/npm/swagger-ui-dist@5/swagger-ui-bundle.js" ++ "\"></script>",
    "    <!-- `SwaggerUIBundle` is now available on the page -->",
    "    <script>",
    "    const ui = SwaggerUIBundle(\x7b",
    "        url: '" ++ schema.path ++ "',",
    "    \"dom_id\": \"#swagger-ui\",",
    "\"layout\": \"BaseLayout\",",
    "\"deepLinking\": true,",
    "\"showExtensions\": true,",
    "\"showCommonExtensions\": true,",
    "oauth2RedirectUrl: window.location.origin + '" ++ signIn.path ++ "',",
    "    presets: [",
    "        SwaggerUIBundle.presets.apis,",
    "        SwaggerUIBundle.SwaggerUIStandalonePreset",
    "        ],",
    "    \x7d)",
    "    </script>",
    "    </body>",
    "    </html>",
    "    "]

/-- Calls are described here. -/
def readerLines : List String := [
    "",
    "    <!DOCTYPE html>",
    "    <html>",
    "    <head>",
    "    <title>" ++ title ++ " - ReDoc</title>",
    "    <!-- needed for adaptive design -->",
    "    <meta charset=\"utf-8\"/>",
    "    <meta name=\"viewport\" content=\"width=device-width, initial-scale=1\">",
    "    ",
    "    <link href=\"" ++ secure "fonts.googleapis.com/css?family=Montserrat:300,400,700|Roboto:300,400,700" ++ "\" rel=\"stylesheet\">",
    "    ",
    "    <link rel=\"shortcut icon\" href=\"" ++ secure "fastapi.tiangolo.com/img/favicon.png" ++ "\">",
    "    <!--",
    "    ReDoc doesn't change outer page styles",
    "    -->",
    "    <style>",
    "      body \x7b",
    "        margin: 0;",
    "        padding: 0;",
    "      \x7d",
    "    </style>",
    "    </head>",
    "    <body>",
    "    <noscript>",
    "        ReDoc requires Javascript to function. Please enable it to browse the documentation.",
    "    </noscript>",
    "    <redoc spec-url=\"" ++ schema.path ++ "\"></redoc>",
    "    <script src=\"" ++ secure "cdn.jsdelivr.net/npm/redoc@2/bundles/redoc.standalone.js" ++ "\"> </script>",
    "    </body>",
    "    </html>",
    "    "]

/-- Where people come back to who have signed in elsewhere. -/
def signInLines : List String := [
    "",
    "    <!doctype html>",
    "    <html lang=\"en-US\">",
    "    <head>",
    "        <title>Swagger UI: OAuth2 Redirect</title>",
    "    </head>",
    "    <body>",
    "    <script>",
    "        'use strict';",
    "        function run () \x7b",
    "            var oauth2 = window.opener.swaggerUIRedirectOauth2;",
    "            var sentState = oauth2.state;",
    "            var redirectUrl = oauth2.redirectUrl;",
    "            var isValid, qp, arr;",
    "",
    "            if (/code|token|error/.test(window.location.hash)) \x7b",
    "                qp = window.location.hash.substring(1).replace('?', '&');",
    "            \x7d else \x7b",
    "                qp = location.search.substring(1);",
    "            \x7d",
    "",
    "            arr = qp.split(\"&\");",
    "            arr.forEach(function (v,i,_arr) \x7b _arr[i] = '\"' + v.replace('=', '\":\"') + '\"';\x7d);",
    "            qp = qp ? JSON.parse('\x7b' + arr.join() + '\x7d',",
    "                    function (key, value) \x7b",
    "                        return key === \"\" ? value : decodeURIComponent(value);",
    "                    \x7d",
    "            ) : \x7b\x7d;",
    "",
    "            isValid = qp.state === sentState;",
    "",
    "            if ((",
    "              oauth2.auth.schema.get(\"flow\") === \"accessCode\" ||",
    "              oauth2.auth.schema.get(\"flow\") === \"authorizationCode\" ||",
    "              oauth2.auth.schema.get(\"flow\") === \"authorization_code\"",
    "            ) && !oauth2.auth.code) \x7b",
    "                if (!isValid) \x7b",
    "                    oauth2.errCb(\x7b",
    "                        authId: oauth2.auth.name,",
    "                        source: \"auth\",",
    "                        level: \"warning\",",
    "                        message: \"Authorization may be unsafe, passed state was changed in server. The passed state wasn't returned from auth server.\"",
    "                    \x7d);",
    "                \x7d",
    "",
    "                if (qp.code) \x7b",
    "                    delete oauth2.state;",
    "                    oauth2.auth.code = qp.code;",
    "                    oauth2.callback(\x7bauth: oauth2.auth, redirectUrl: redirectUrl\x7d);",
    "                \x7d else \x7b",
    "                    let oauthErrorMsg;",
    "                    if (qp.error) \x7b",
    "                        oauthErrorMsg = \"[\"+qp.error+\"]: \" +",
    "                            (qp.error_description ? qp.error_description+ \". \" : \"no accessCode received from the server. \") +",
    "                            (qp.error_uri ? \"More info: \"+qp.error_uri : \"\");",
    "                    \x7d",
    "",
    "                    oauth2.errCb(\x7b",
    "                        authId: oauth2.auth.name,",
    "                        source: \"auth\",",
    "                        level: \"error\",",
    "                        message: oauthErrorMsg || \"[Authorization failed]: no accessCode received from the server.\"",
    "                    \x7d);",
    "                \x7d",
    "            \x7d else \x7b",
    "                oauth2.callback(\x7bauth: oauth2.auth, token: qp, isValid: isValid, redirectUrl: redirectUrl\x7d);",
    "            \x7d",
    "            window.close();",
    "        \x7d",
    "",
    "        if (document.readyState !== 'loading') \x7b",
    "            run();",
    "        \x7d else \x7b",
    "            document.addEventListener('DOMContentLoaded', function () \x7b",
    "                run();",
    "            \x7d);",
    "        \x7d",
    "    </script>",
    "    </body>",
    "    </html>",
    "        "]

def page? : Reference → Option String
  | schema => none
  | browser => some (String.intercalate "\n" browserLines)
  | reader => some (String.intercalate "\n" readerLines)
  | signIn => some (String.intercalate "\n" signInLines)

end Reference
end Reversi
