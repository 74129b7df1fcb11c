import Trackpal.Protocol.Schemas

/-!
# The extraction catalogue

`CATALOG_V1`: for each service the subjects of its emails, and the patterns that find
the code or the link in one, in the order in which they are tried. Every pattern has
one group, which takes part in every match.

Results:
1. `url_of_netflix`: only an email of Netflix yields a link.
-/

namespace Trackpal.Worker

open Trackpal.Protocol

structure ExtractionRule where
  regex : String
  type : ResultType
deriving DecidableEq, Repr

structure ServiceEntry where
  serviceName : String
  subjectPatterns : List String
  extractionRules : List ExtractionRule
deriving DecidableEq, Repr

def travelVerifyRegex (before stop after : String) : ExtractionRule :=
  ⟨before ++ "(https:\\/\\/www\\.netflix\\.com\\/account\\/travel\\/verify\\?nftoken=[^" ++ stop ++
    "]+)" ++ after, .url⟩

def signInRegex (announcement : String) : ExtractionRule :=
  ⟨announcement ++ "(?:\\r?\\n\\s*)\x7b1,3\x7d(?:" ++ announcement ++
    "(?:\\r?\\n\\s*)\x7b1,3\x7d)?(\\d\x7b4\x7d)", .code⟩

/-- A six-digit code under its announcement. -/
def accountChangeRegex (announcement : String) : ExtractionRule :=
  ⟨announcement ++ "(?:\\r?\\n\\s*)+(\\d\x7b6\x7d)", .code⟩

def codeRegex (regex : String) : ExtractionRule := ⟨regex, .code⟩

def netflixEntry : ServiceEntry where
  serviceName := "Netflix"
  subjectPatterns := ["Tu código de acceso temporal de Netflix",
    "Your Netflix temporary access code", "您的 Netflix 临时访问代码",
    "Tu código de inicio de sesión", "Netflix: Tu código de inicio de sesión",
    "Netflix：您的登录代码", "Netflix: Your sign-in code", "Tu código de verificación",
    "Your verification code", "Este código vence en 15 minutos"]
  extractionRules := [travelVerifyRegex "\\[" "\\]" "\\]", travelVerifyRegex "href=\"" "\"" "\"",
    signInRegex "Escribe este código para iniciar sesión",
    signInRegex "Ingresa este código para iniciar sesión",
    signInRegex "Enter this code to sign in", signInRegex "输入此代码登录",
    codeRegex ("font-size: 28px; line-height: 32px; letter-spacing: 6px; " ++
      "font-family: NetflixSans-Regular, Helvetica, Roboto, Segoe UI, sans-serif; " ++
      "font-weight: 400; padding-top: 20px; color: #221f1f;\">\\s*(\\d\x7b4\x7d)\\s*</td>"),
    accountChangeRegex "Confirma el cambio en tu cuenta con este código:",
    accountChangeRegex "Confirma el cambio de cuenta con este código:",
    accountChangeRegex "Confirm your account change with this code:",
    accountChangeRegex "Código de verificación:"]

def disneyEntry : ServiceEntry where
  serviceName := "Disney+"
  subjectPatterns := ["Tu código de acceso único para Disney+",
    "Tu código de acceso único para MyDisney", "¿Vas a actualizar tu Hogar de Disney+",
    "Your one-time passcode for My Disney", "Your one-time passcode for Disney+"]
  extractionRules := [codeRegex "<td\\b[^>]*>\\s*(\\d\x7b6\x7d)\\s*</td>",
    codeRegex "\\b(\\d\x7b6\x7d)\\b"]

def hboMaxEntry : ServiceEntry where
  serviceName := "HBO Max"
  subjectPatterns := ["Urgente: Tu código de un solo uso de HBO Max",
    "Urgente: Tu código de un solo uso de Max", "Time Sensitive: Your One-Time HBO Max Code",
    "Time Sensitive: Your One-Time Max Code"]
  extractionRules := [
    codeRegex "(?is)Tu c[oó]digo de un solo uso\\s*-*\\s*(\\d\x7b6\x7d)",
    codeRegex "(?is)Utiliza este c[oó]digo.*?Tu c[oó]digo de un solo uso.*?(\\d\x7b6\x7d)",
    codeRegex "(?is)Your one-time code\\s*-+\\s*(\\d\x7b6\x7d)",
    codeRegex "(?im)^\\s*(\\d\x7b6\x7d)\\s*$"]

def spotifyEntry : ServiceEntry where
  serviceName := "Spotify"
  subjectPatterns := ["Tu código de inicio de sesión de Spotify:",
    "Tu código de inicio de sesión de Spotify es", "Your Spotify login code"]
  extractionRules := [
    codeRegex "Tu código de inicio de sesión de Spotify:\\s*(\\d\x7b6\x7d)",
    codeRegex "Tu código de inicio de sesión de Spotify es\\s*(\\d\x7b6\x7d)",
    codeRegex "Ingresa este código.*?(\\d\x7b6\x7d)",
    codeRegex "(\\d\x7b6\x7d)\\s*Este código es válido",
    codeRegex "(\\d\x7b6\x7d)\\s*-\\s*Your Spotify login code",
    codeRegex "Enter this code.*?(\\d\x7b6\x7d)",
    codeRegex "(\\d\x7b6\x7d)\\s*This code is valid"]

def universalPlusEntry : ServiceEntry where
  serviceName := "Universal+"
  subjectPatterns := ["Universal+ código de activación"]
  extractionRules := [
    codeRegex "(?is)c[oó]digo de activaci[oó]n.*?<strong[^>]*>([A-Z0-9]\x7b6\x7d)<\\/strong>",
    codeRegex "(?is)<strong[^>]*>([A-Z0-9]\x7b6\x7d)<\\/strong>",
    codeRegex "(?m)^\\s*([A-Z0-9]\x7b6\x7d)\\s*$",
    codeRegex "(?s)c[oó]digo de activaci[oó]n[\\s\\S]*?([A-Z0-9]\x7b6\x7d)"]

def primeVideoEntry : ServiceEntry where
  serviceName := "Prime Video"
  subjectPatterns := ["amazon.com: Intento de inicio de sesión",
    "amazon.com.mx: Intento de inicio de sesión", "amazon.com: Sign-in attempt",
    "amazon.co.uk: Sign-in attempt"]
  extractionRules := [
    codeRegex "(?is)tu c[óo]digo de verificación es:.*?(\\d\x7b6\x7d)",
    codeRegex "(?is)background-color:\\s*#D3D3D3.*?>\\s*(\\d\x7b6\x7d)\\s*<",
    codeRegex "(?is)your verification code is:\\s*(\\d\x7b6\x7d)",
    codeRegex "(?m)^\\s*(\\d\x7b6\x7d)\\s*$",
    codeRegex "(?is)c[óo]digo.*?(\\d\x7b6\x7d)"]

/-- `CATALOG_V1`. -/
def catalogV1 : List (String × ServiceEntry) :=
  [("netflix", netflixEntry), ("disney", disneyEntry), ("hbo_max", hboMaxEntry),
    ("spotify", spotifyEntry), ("universal_plus", universalPlusEntry),
    ("prime_video", primeVideoEntry)]

def getServiceEntry (serviceKey : String) : Option ServiceEntry := catalogV1.lookup serviceKey

theorem url_of_netflix {serviceKey : String} {entry : ServiceEntry} {rule : ExtractionRule}
    (hentry : getServiceEntry serviceKey = some entry) (hrule : rule ∈ entry.extractionRules)
    (htype : rule.type = .url) : serviceKey = "netflix" := by
  have hcatalog : ∀ item ∈ catalogV1, ∀ rule ∈ item.2.extractionRules,
      rule.type = .url → item.1 = "netflix" := by decide
  obtain ⟨before, after, hmem, -⟩ := List.lookup_eq_some_iff.mp hentry
  have hitem : (serviceKey, entry) ∈ catalogV1 := by
    rw [hmem]
    exact List.mem_append_right before List.mem_cons_self
  exact hcatalog (serviceKey, entry) hitem rule hrule htype

end Trackpal.Worker
