/-
The currencies that an account can be paid in, under their three-letter codes,
and the currency of each country. Codes are case sensitive. Both tables are in
ascending order.
-/

namespace FiatAccounts

structure Currency where
  code : String
  name : String
  deriving DecidableEq, Repr

namespace Currency

def all : List Currency :=
  [⟨"AED", "UAE Dirham"⟩,
   ⟨"AFN", "Afghan Afghani"⟩,
   ⟨"ALL", "Albanian Lek"⟩,
   ⟨"AMD", "Armenian Dram"⟩,
   ⟨"ANG", "Netherlands Antillean Guilder"⟩,
   ⟨"AOA", "Angolan Kwanza"⟩,
   ⟨"ARS", "Argentine Peso"⟩,
   ⟨"AUD", "Australian Dollar"⟩,
   ⟨"AWG", "Aruban Florin"⟩,
   ⟨"AZN", "Azerbaijani Manat"⟩,
   ⟨"BAM", "Bosnia-Herzegovina Convertible Mark"⟩,
   ⟨"BBD", "Barbadian Dollar"⟩,
   ⟨"BDT", "Bangladeshi Taka"⟩,
   ⟨"BGN", "Bulgarian Lev"⟩,
   ⟨"BHD", "Bahraini Dinar"⟩,
   ⟨"BIF", "Burundian Franc"⟩,
   ⟨"BMD", "Bermudan Dollar"⟩,
   ⟨"BND", "Brunei Dollar"⟩,
   ⟨"BOB", "Bolivian Boliviano"⟩,
   ⟨"BRL", "Brazilian Real"⟩,
   ⟨"BSD", "Bahamian Dollar"⟩,
   ⟨"BTN", "Bhutanese Ngultrum"⟩,
   ⟨"BWP", "Botswanan Pula"⟩,
   ⟨"BYN", "Belarusian Ruble"⟩,
   ⟨"BZD", "Belize Dollar"⟩,
   ⟨"CAD", "Canadian Dollar"⟩,
   ⟨"CDF", "Congolese Franc"⟩,
   ⟨"CHF", "Swiss Franc"⟩,
   ⟨"CLP", "Chilean Peso"⟩,
   ⟨"CNY", "Chinese Yuan"⟩,
   ⟨"COP", "Colombian Peso"⟩,
   ⟨"CRC", "Costa Rican Colon"⟩,
   ⟨"CUP", "Cuban Peso"⟩,
   ⟨"CVE", "Cape Verdean Escudo"⟩,
   ⟨"CZK", "Czech Koruna"⟩,
   ⟨"DJF", "Djiboutian Franc"⟩,
   ⟨"DKK", "Danish Krone"⟩,
   ⟨"DOP", "Dominican Peso"⟩,
   ⟨"DZD", "Algerian Dinar"⟩,
   ⟨"EGP", "Egyptian Pound"⟩,
   ⟨"ERN", "Eritrean Nakfa"⟩,
   ⟨"ETB", "Ethiopian Birr"⟩,
   ⟨"EUR", "Euro"⟩,
   ⟨"FJD", "Fijian Dollar"⟩,
   ⟨"FKP", "Falkland Islands Pound"⟩,
   ⟨"GBP", "British Pound"⟩,
   ⟨"GEL", "Georgian Lari"⟩,
   ⟨"GHS", "Ghanaian Cedi"⟩,
   ⟨"GIP", "Gibraltar Pound"⟩,
   ⟨"GMD", "Gambian Dalasi"⟩,
   ⟨"GNF", "Guinean Franc"⟩,
   ⟨"GTQ", "Guatemalan Quetzal"⟩,
   ⟨"GYD", "Guyanaese Dollar"⟩,
   ⟨"HKD", "Hong Kong Dollar"⟩,
   ⟨"HNL", "Honduran Lempira"⟩,
   ⟨"HTG", "Haitian Gourde"⟩,
   ⟨"HUF", "Hungarian Forint"⟩,
   ⟨"IDR", "Indonesian Rupiah"⟩,
   ⟨"ILS", "Israeli New Shekel"⟩,
   ⟨"INR", "Indian Rupee"⟩,
   ⟨"IQD", "Iraqi Dinar"⟩,
   ⟨"IRR", "Iranian Rial"⟩,
   ⟨"ISK", "Icelandic Krona"⟩,
   ⟨"JMD", "Jamaican Dollar"⟩,
   ⟨"JOD", "Jordanian Dinar"⟩,
   ⟨"JPY", "Japanese Yen"⟩,
   ⟨"KES", "Kenyan Shilling"⟩,
   ⟨"KGS", "Kyrgystani Som"⟩,
   ⟨"KHR", "Cambodian Riel"⟩,
   ⟨"KMF", "Comorian Franc"⟩,
   ⟨"KPW", "North Korean Won"⟩,
   ⟨"KRW", "South Korean Won"⟩,
   ⟨"KWD", "Kuwaiti Dinar"⟩,
   ⟨"KYD", "Cayman Islands Dollar"⟩,
   ⟨"KZT", "Kazakhstani Tenge"⟩,
   ⟨"LAK", "Laotian Kip"⟩,
   ⟨"LBP", "Lebanese Pound"⟩,
   ⟨"LKR", "Sri Lankan Rupee"⟩,
   ⟨"LRD", "Liberian Dollar"⟩,
   ⟨"LSL", "Lesotho Loti"⟩,
   ⟨"LYD", "Libyan Dinar"⟩,
   ⟨"MAD", "Moroccan Dirham"⟩,
   ⟨"MDL", "Moldovan Leu"⟩,
   ⟨"MGA", "Malagasy Ariary"⟩,
   ⟨"MKD", "Macedonian Denar"⟩,
   ⟨"MMK", "Myanmar Kyat"⟩,
   ⟨"MNT", "Mongolian Tugrik"⟩,
   ⟨"MOP", "Macanese Pataca"⟩,
   ⟨"MRU", "Mauritanian Ouguiya"⟩,
   ⟨"MUR", "Mauritian Rupee"⟩,
   ⟨"MVR", "Maldivian Rufiyaa"⟩,
   ⟨"MWK", "Malawian Kwacha"⟩,
   ⟨"MXN", "Mexican Peso"⟩,
   ⟨"MYR", "Malaysian Ringgit"⟩,
   ⟨"MZN", "Mozambican Metical"⟩,
   ⟨"NAD", "Namibian Dollar"⟩,
   ⟨"NGN", "Nigerian Naira"⟩,
   ⟨"NIO", "Nicaraguan Cordoba"⟩,
   ⟨"NOK", "Norwegian Krone"⟩,
   ⟨"NPR", "Nepalese Rupee"⟩,
   ⟨"NZD", "New Zealand Dollar"⟩,
   ⟨"OMR", "Omani Rial"⟩,
   ⟨"PAB", "Panamanian Balboa"⟩,
   ⟨"PEN", "Peruvian Sol"⟩,
   ⟨"PGK", "Papua New Guinean Kina"⟩,
   ⟨"PHP", "Philippine Peso"⟩,
   ⟨"PKR", "Pakistani Rupee"⟩,
   ⟨"PLN", "Polish Zloty"⟩,
   ⟨"PYG", "Paraguayan Guarani"⟩,
   ⟨"QAR", "Qatari Riyal"⟩,
   ⟨"RON", "Romanian Leu"⟩,
   ⟨"RSD", "Serbian Dinar"⟩,
   ⟨"RUB", "Russian Ruble"⟩,
   ⟨"RWF", "Rwandan Franc"⟩,
   ⟨"SAR", "Saudi Riyal"⟩,
   ⟨"SBD", "Solomon Islands Dollar"⟩,
   ⟨"SCR", "Seychellois Rupee"⟩,
   ⟨"SDG", "Sudanese Pound"⟩,
   ⟨"SEK", "Swedish Krona"⟩,
   ⟨"SGD", "Singapore Dollar"⟩,
   ⟨"SHP", "St. Helena Pound"⟩,
   ⟨"SLE", "Sierra Leonean Leone"⟩,
   ⟨"SOS", "Somali Shilling"⟩,
   ⟨"SRD", "Surinamese Dollar"⟩,
   ⟨"SSP", "South Sudanese Pound"⟩,
   ⟨"STN", "Sao Tome and Principe Dobra"⟩,
   ⟨"SYP", "Syrian Pound"⟩,
   ⟨"SZL", "Swazi Lilangeni"⟩,
   ⟨"THB", "Thai Baht"⟩,
   ⟨"TJS", "Tajikistani Somoni"⟩,
   ⟨"TMT", "Turkmenistani Manat"⟩,
   ⟨"TND", "Tunisian Dinar"⟩,
   ⟨"TOP", "Tongan Paanga"⟩,
   ⟨"TRY", "Turkish Lira"⟩,
   ⟨"TTD", "Trinidad and Tobago Dollar"⟩,
   ⟨"TWD", "New Taiwan Dollar"⟩,
   ⟨"TZS", "Tanzanian Shilling"⟩,
   ⟨"UAH", "Ukrainian Hryvnia"⟩,
   ⟨"UGX", "Ugandan Shilling"⟩,
   ⟨"USD", "US Dollar"⟩,
   ⟨"UYU", "Uruguayan Peso"⟩,
   ⟨"UZS", "Uzbekistani Som"⟩,
   ⟨"VES", "Venezuelan Bolivar"⟩,
   ⟨"VND", "Vietnamese Dong"⟩,
   ⟨"VUV", "Vanuatu Vatu"⟩,
   ⟨"WST", "Samoan Tala"⟩,
   ⟨"XAF", "Central African CFA Franc"⟩,
   ⟨"XCD", "East Caribbean Dollar"⟩,
   ⟨"XOF", "West African CFA Franc"⟩,
   ⟨"XPF", "CFP Franc"⟩,
   ⟨"YER", "Yemeni Rial"⟩,
   ⟨"ZAR", "South African Rand"⟩,
   ⟨"ZMW", "Zambian Kwacha"⟩,
   ⟨"ZWL", "Zimbabwean Dollar"⟩]

def codes : List String :=
  all.map Currency.code

/-- The currency of a code. -/
def find? (code : String) : Option Currency :=
  all.find? fun currency => currency.code == code

def isKnown (code : String) : Bool :=
  (find? code).isSome

/-- The name with the code behind it, as in `Euro (EUR)`. -/
def display (currency : Currency) : String :=
  s!"{currency.name} ({currency.code})"

/-- The code of the main currency of each country. -/
def byCountry : List (String × String) :=
  [("AD", "EUR"), ("AE", "AED"), ("AF", "AFN"), ("AG", "XCD"), ("AI", "XCD"),
   ("AL", "ALL"), ("AM", "AMD"), ("AO", "AOA"), ("AR", "ARS"), ("AS", "USD"),
   ("AT", "EUR"), ("AU", "AUD"), ("AW", "AWG"), ("AX", "EUR"), ("AZ", "AZN"),
   ("BA", "BAM"), ("BB", "BBD"), ("BD", "BDT"), ("BE", "EUR"), ("BF", "XOF"),
   ("BG", "BGN"), ("BH", "BHD"), ("BI", "BIF"), ("BJ", "XOF"), ("BL", "EUR"),
   ("BM", "BMD"), ("BN", "BND"), ("BO", "BOB"), ("BQ", "USD"), ("BR", "BRL"),
   ("BS", "BSD"), ("BT", "BTN"), ("BW", "BWP"), ("BY", "BYN"), ("BZ", "BZD"),
   ("CA", "CAD"), ("CC", "AUD"), ("CD", "CDF"), ("CF", "XAF"), ("CG", "XAF"),
   ("CH", "CHF"), ("CI", "XOF"), ("CK", "NZD"), ("CL", "CLP"), ("CM", "XAF"),
   ("CN", "CNY"), ("CO", "COP"), ("CR", "CRC"), ("CU", "CUP"), ("CV", "CVE"),
   ("CW", "ANG"), ("CX", "AUD"), ("CY", "EUR"), ("CZ", "CZK"), ("DE", "EUR"),
   ("DJ", "DJF"), ("DK", "DKK"), ("DM", "XCD"), ("DO", "DOP"), ("DZ", "DZD"),
   ("EC", "USD"), ("EE", "EUR"), ("EG", "EGP"), ("EH", "MAD"), ("ER", "ERN"),
   ("ES", "EUR"), ("ET", "ETB"), ("FI", "EUR"), ("FJ", "FJD"), ("FK", "FKP"),
   ("FM", "USD"), ("FO", "DKK"), ("FR", "EUR"), ("GA", "XAF"), ("GB", "GBP"),
   ("GD", "XCD"), ("GE", "GEL"), ("GF", "EUR"), ("GG", "GBP"), ("GH", "GHS"),
   ("GI", "GIP"), ("GL", "DKK"), ("GM", "GMD"), ("GN", "GNF"), ("GP", "EUR"),
   ("GQ", "XAF"), ("GR", "EUR"), ("GS", "GBP"), ("GT", "GTQ"), ("GU", "USD"),
   ("GW", "XOF"), ("GY", "GYD"), ("HK", "HKD"), ("HN", "HNL"), ("HR", "EUR"),
   ("HT", "HTG"), ("HU", "HUF"), ("ID", "IDR"), ("IE", "EUR"), ("IL", "ILS"),
   ("IM", "GBP"), ("IN", "INR"), ("IO", "USD"), ("IQ", "IQD"), ("IR", "IRR"),
   ("IS", "ISK"), ("IT", "EUR"), ("JE", "GBP"), ("JM", "JMD"), ("JO", "JOD"),
   ("JP", "JPY"), ("KE", "KES"), ("KG", "KGS"), ("KH", "KHR"), ("KI", "AUD"),
   ("KM", "KMF"), ("KN", "XCD"), ("KP", "KPW"), ("KR", "KRW"), ("KW", "KWD"),
   ("KY", "KYD"), ("KZ", "KZT"), ("LA", "LAK"), ("LB", "LBP"), ("LC", "XCD"),
   ("LI", "CHF"), ("LK", "LKR"), ("LR", "LRD"), ("LS", "LSL"), ("LT", "EUR"),
   ("LU", "EUR"), ("LV", "EUR"), ("LY", "LYD"), ("MA", "MAD"), ("MC", "EUR"),
   ("MD", "MDL"), ("ME", "EUR"), ("MF", "EUR"), ("MG", "MGA"), ("MH", "USD"),
   ("MK", "MKD"), ("ML", "XOF"), ("MM", "MMK"), ("MN", "MNT"), ("MO", "MOP"),
   ("MP", "USD"), ("MQ", "EUR"), ("MR", "MRU"), ("MS", "XCD"), ("MT", "EUR"),
   ("MU", "MUR"), ("MV", "MVR"), ("MW", "MWK"), ("MX", "MXN"), ("MY", "MYR"),
   ("MZ", "MZN"), ("NA", "NAD"), ("NC", "XPF"), ("NE", "XOF"), ("NF", "AUD"),
   ("NG", "NGN"), ("NI", "NIO"), ("NL", "EUR"), ("NO", "NOK"), ("NP", "NPR"),
   ("NR", "AUD"), ("NU", "NZD"), ("NZ", "NZD"), ("OM", "OMR"), ("PA", "PAB"),
   ("PE", "PEN"), ("PF", "XPF"), ("PG", "PGK"), ("PH", "PHP"), ("PK", "PKR"),
   ("PL", "PLN"), ("PM", "EUR"), ("PN", "NZD"), ("PR", "USD"), ("PS", "ILS"),
   ("PT", "EUR"), ("PW", "USD"), ("PY", "PYG"), ("QA", "QAR"), ("RE", "EUR"),
   ("RO", "RON"), ("RS", "RSD"), ("RU", "RUB"), ("RW", "RWF"), ("SA", "SAR"),
   ("SB", "SBD"), ("SC", "SCR"), ("SD", "SDG"), ("SE", "SEK"), ("SG", "SGD"),
   ("SH", "SHP"), ("SI", "EUR"), ("SJ", "NOK"), ("SK", "EUR"), ("SL", "SLE"),
   ("SM", "EUR"), ("SN", "XOF"), ("SO", "SOS"), ("SR", "SRD"), ("SS", "SSP"),
   ("ST", "STN"), ("SV", "USD"), ("SX", "ANG"), ("SY", "SYP"), ("SZ", "SZL"),
   ("TC", "USD"), ("TD", "XAF"), ("TF", "EUR"), ("TG", "XOF"), ("TH", "THB"),
   ("TJ", "TJS"), ("TK", "NZD"), ("TL", "USD"), ("TM", "TMT"), ("TN", "TND"),
   ("TO", "TOP"), ("TR", "TRY"), ("TT", "TTD"), ("TV", "AUD"), ("TW", "TWD"),
   ("TZ", "TZS"), ("UA", "UAH"), ("UG", "UGX"), ("UM", "USD"), ("US", "USD"),
   ("UY", "UYU"), ("UZ", "UZS"), ("VA", "EUR"), ("VC", "XCD"), ("VE", "VES"),
   ("VG", "USD"), ("VI", "USD"), ("VN", "VND"), ("VU", "VUV"), ("WF", "XPF"),
   ("WS", "WST"), ("XK", "EUR"), ("YE", "YER"), ("YT", "EUR"), ("ZA", "ZAR"),
   ("ZM", "ZMW"), ("ZW", "ZWL")]

/-- The main currency of a country. -/
def ofCountry? (countryCode : String) : Option Currency :=
  (byCountry.lookup countryCode).bind find?

end Currency

end FiatAccounts
