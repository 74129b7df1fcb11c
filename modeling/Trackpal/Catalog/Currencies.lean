/-!
# The currency catalog

The bundled currencies, with their symbols and minor units.
-/

namespace Trackpal.Catalog

structure CurrencyData where
  symbol : String
  minorUnits : Nat
deriving DecidableEq

/-- `currencies` of `data.json`. -/
def currencies : List (String × CurrencyData) :=
  [ ("AED", ⟨"د.إ", 2⟩), ("AFN", ⟨"؋", 0⟩), ("ALL", ⟨"L", 0⟩), ("AMD", ⟨"֏", 2⟩),
    ("AOA", ⟨"Kz", 2⟩), ("ARS", ⟨"$", 2⟩), ("AUD", ⟨"A$", 2⟩), ("AWG", ⟨"ƒ", 2⟩),
    ("AZN", ⟨"₼", 2⟩), ("BAM", ⟨"KM", 2⟩), ("BBD", ⟨"$", 2⟩), ("BDT", ⟨"৳", 2⟩),
    ("BGN", ⟨"лв", 2⟩), ("BHD", ⟨"د.ب", 3⟩), ("BIF", ⟨"FBu", 0⟩), ("BMD", ⟨"$", 2⟩),
    ("BND", ⟨"$", 2⟩), ("BOB", ⟨"Bs.", 2⟩), ("BRL", ⟨"R$", 2⟩), ("BSD", ⟨"$", 2⟩),
    ("BTN", ⟨"Nu.", 2⟩), ("BWP", ⟨"P", 2⟩), ("BYN", ⟨"Br", 2⟩), ("BZD", ⟨"$", 2⟩),
    ("CAD", ⟨"CA$", 2⟩), ("CDF", ⟨"FC", 2⟩), ("CHF", ⟨"Fr.", 2⟩), ("CLP", ⟨"$", 0⟩),
    ("CNY", ⟨"CN¥", 2⟩), ("COP", ⟨"$", 2⟩), ("CRC", ⟨"₡", 2⟩), ("CUP", ⟨"₱", 2⟩),
    ("CVE", ⟨"$", 2⟩), ("CZK", ⟨"Kč", 2⟩), ("DJF", ⟨"Fdj", 0⟩), ("DKK", ⟨"kr", 2⟩),
    ("DOP", ⟨"RD$", 2⟩), ("DZD", ⟨"د.ج", 2⟩), ("EGP", ⟨"E£", 2⟩), ("ERN", ⟨"Nfk", 2⟩),
    ("ETB", ⟨"Br", 2⟩), ("EUR", ⟨"€", 2⟩), ("FJD", ⟨"$", 2⟩), ("FKP", ⟨"£", 2⟩),
    ("GBP", ⟨"£", 2⟩), ("GEL", ⟨"₾", 2⟩), ("GHS", ⟨"GH₵", 2⟩), ("GIP", ⟨"£", 2⟩),
    ("GMD", ⟨"D", 2⟩), ("GNF", ⟨"FG", 0⟩), ("GTQ", ⟨"Q", 2⟩), ("GYD", ⟨"$", 2⟩),
    ("HKD", ⟨"HK$", 2⟩), ("HNL", ⟨"L", 2⟩), ("HTG", ⟨"G", 2⟩), ("HUF", ⟨"Ft", 2⟩),
    ("IDR", ⟨"Rp", 2⟩), ("ILS", ⟨"₪", 2⟩), ("INR", ⟨"₹", 2⟩), ("IQD", ⟨"ع.د", 0⟩),
    ("IRR", ⟨"﷼", 0⟩), ("ISK", ⟨"kr", 0⟩), ("JMD", ⟨"J$", 2⟩), ("JOD", ⟨"د.ا", 3⟩),
    ("JPY", ⟨"¥", 0⟩), ("KES", ⟨"KSh", 2⟩), ("KGS", ⟨"сом", 2⟩), ("KHR", ⟨"៛", 2⟩),
    ("KMF", ⟨"CF", 0⟩), ("KPW", ⟨"₩", 0⟩), ("KRW", ⟨"₩", 0⟩), ("KWD", ⟨"د.ك", 3⟩),
    ("KYD", ⟨"$", 2⟩), ("KZT", ⟨"₸", 2⟩), ("LAK", ⟨"₭", 0⟩), ("LBP", ⟨"L£", 0⟩),
    ("LKR", ⟨"Rs", 2⟩), ("LRD", ⟨"$", 2⟩), ("LSL", ⟨"L", 2⟩), ("LYD", ⟨"ل.د", 3⟩),
    ("MAD", ⟨"DH", 2⟩), ("MDL", ⟨"lei", 2⟩), ("MGA", ⟨"Ar", 0⟩), ("MKD", ⟨"ден", 2⟩),
    ("MMK", ⟨"K", 0⟩), ("MNT", ⟨"₮", 2⟩), ("MOP", ⟨"MOP$", 2⟩), ("MRU", ⟨"UM", 2⟩),
    ("MUR", ⟨"Rs", 2⟩), ("MVR", ⟨"Rf", 2⟩), ("MWK", ⟨"MK", 2⟩), ("MXN", ⟨"MX$", 2⟩),
    ("MYR", ⟨"RM", 2⟩), ("MZN", ⟨"MT", 2⟩), ("NAD", ⟨"$", 2⟩), ("NGN", ⟨"₦", 2⟩),
    ("NIO", ⟨"C$", 2⟩), ("NOK", ⟨"kr", 2⟩), ("NPR", ⟨"Rs", 2⟩), ("NZD", ⟨"NZ$", 2⟩),
    ("OMR", ⟨"ر.ع.", 3⟩), ("PAB", ⟨"B/.", 2⟩), ("PEN", ⟨"S/", 2⟩), ("PGK", ⟨"K", 2⟩),
    ("PHP", ⟨"₱", 2⟩), ("PKR", ⟨"Rs", 2⟩), ("PLN", ⟨"zł", 2⟩), ("PYG", ⟨"₲", 0⟩),
    ("QAR", ⟨"ر.ق", 2⟩), ("RON", ⟨"lei", 2⟩), ("RSD", ⟨"din.", 0⟩), ("RUB", ⟨"₽", 2⟩),
    ("RWF", ⟨"FRw", 0⟩), ("SAR", ⟨"﷼", 2⟩), ("SBD", ⟨"$", 2⟩), ("SCR", ⟨"Rs", 2⟩),
    ("SDG", ⟨"£", 2⟩), ("SEK", ⟨"kr", 2⟩), ("SGD", ⟨"$", 2⟩), ("SHP", ⟨"£", 2⟩),
    ("SLE", ⟨"Le", 2⟩), ("SOS", ⟨"Sh", 0⟩), ("SRD", ⟨"$", 2⟩), ("SSP", ⟨"£", 2⟩),
    ("STN", ⟨"Db", 2⟩), ("SYP", ⟨"£", 0⟩), ("SZL", ⟨"E", 2⟩), ("THB", ⟨"฿", 2⟩),
    ("TJS", ⟨"som", 2⟩), ("TMT", ⟨"m", 2⟩), ("TND", ⟨"د.ت", 3⟩), ("TOP", ⟨"T$", 2⟩),
    ("TRY", ⟨"₺", 2⟩), ("TTD", ⟨"$", 2⟩), ("TWD", ⟨"NT$", 2⟩), ("TZS", ⟨"TSh", 2⟩),
    ("UAH", ⟨"₴", 2⟩), ("UGX", ⟨"USh", 0⟩), ("USD", ⟨"$", 2⟩), ("UYU", ⟨"$U", 2⟩),
    ("UZS", ⟨"so'm", 2⟩), ("VES", ⟨"Bs.", 2⟩), ("VND", ⟨"₫", 0⟩), ("VUV", ⟨"VT", 0⟩),
    ("WST", ⟨"WS$", 2⟩), ("XAF", ⟨"FCFA", 0⟩), ("XCD", ⟨"EC$", 2⟩), ("XCG", ⟨"Cg.", 2⟩),
    ("XOF", ⟨"F CFA", 0⟩), ("XPF", ⟨"CFPF", 0⟩), ("YER", ⟨"﷼", 0⟩), ("ZAR", ⟨"R", 2⟩),
    ("ZMW", ⟨"ZK", 2⟩), ("ZWG", ⟨"ZiG", 2⟩) ]

def currencyData (code : String) : Option CurrencyData :=
  (currencies.find? (·.1 == code)).map (·.2)

def symbolOf (code : String) : Option String := (currencyData code).map (·.symbol)

def minorUnitsOf (code : String) : Option Nat := (currencyData code).map (·.minorUnits)

end Trackpal.Catalog
