/-
The countries that an account can be declared in, under their two-letter codes.
Codes are case sensitive. The table is in ascending order of the codes and
lists each once.
-/

namespace FiatAccounts

-- ============================================================= regions

inductive Region where
  | africa
  | americas
  | asia
  | europe
  | oceania
  deriving DecidableEq, Repr

namespace Region

def all : List Region := [.africa, .americas, .asia, .europe, .oceania]

def name : Region → String
  | .africa => "Africa"
  | .americas => "Americas"
  | .asia => "Asia"
  | .europe => "Europe"
  | .oceania => "Oceania"

/-- The region of a name. -/
def ofName? (text : String) : Option Region :=
  all.find? fun region => region.name == text

end Region

-- =========================================================== countries

structure Country where
  code : String
  name : String
  region : Region
  deriving DecidableEq, Repr

namespace Country

def all : List Country :=
  [⟨"AD", "Andorra", .europe⟩,
   ⟨"AE", "United Arab Emirates", .asia⟩,
   ⟨"AF", "Afghanistan", .asia⟩,
   ⟨"AG", "Antigua and Barbuda", .americas⟩,
   ⟨"AI", "Anguilla", .americas⟩,
   ⟨"AL", "Albania", .europe⟩,
   ⟨"AM", "Armenia", .asia⟩,
   ⟨"AO", "Angola", .africa⟩,
   ⟨"AR", "Argentina", .americas⟩,
   ⟨"AS", "American Samoa", .oceania⟩,
   ⟨"AT", "Austria", .europe⟩,
   ⟨"AU", "Australia", .oceania⟩,
   ⟨"AW", "Aruba", .americas⟩,
   ⟨"AX", "Åland Islands", .europe⟩,
   ⟨"AZ", "Azerbaijan", .asia⟩,
   ⟨"BA", "Bosnia and Herzegovina", .europe⟩,
   ⟨"BB", "Barbados", .americas⟩,
   ⟨"BD", "Bangladesh", .asia⟩,
   ⟨"BE", "Belgium", .europe⟩,
   ⟨"BF", "Burkina Faso", .africa⟩,
   ⟨"BG", "Bulgaria", .europe⟩,
   ⟨"BH", "Bahrain", .asia⟩,
   ⟨"BI", "Burundi", .africa⟩,
   ⟨"BJ", "Benin", .africa⟩,
   ⟨"BL", "Saint Barthélemy", .americas⟩,
   ⟨"BM", "Bermuda", .americas⟩,
   ⟨"BN", "Brunei Darussalam", .asia⟩,
   ⟨"BO", "Bolivia (Plurinational State of)", .americas⟩,
   ⟨"BQ", "Bonaire, Sint Eustatius and Saba", .americas⟩,
   ⟨"BR", "Brazil", .americas⟩,
   ⟨"BS", "Bahamas", .americas⟩,
   ⟨"BT", "Bhutan", .asia⟩,
   ⟨"BW", "Botswana", .africa⟩,
   ⟨"BY", "Belarus", .europe⟩,
   ⟨"BZ", "Belize", .americas⟩,
   ⟨"CA", "Canada", .americas⟩,
   ⟨"CC", "Cocos (Keeling) Islands", .oceania⟩,
   ⟨"CD", "Congo (Democratic Republic of the)", .africa⟩,
   ⟨"CF", "Central African Republic", .africa⟩,
   ⟨"CG", "Congo", .africa⟩,
   ⟨"CH", "Switzerland", .europe⟩,
   ⟨"CI", "Côte d'Ivoire", .africa⟩,
   ⟨"CK", "Cook Islands", .oceania⟩,
   ⟨"CL", "Chile", .americas⟩,
   ⟨"CM", "Cameroon", .africa⟩,
   ⟨"CN", "China", .asia⟩,
   ⟨"CO", "Colombia", .americas⟩,
   ⟨"CR", "Costa Rica", .americas⟩,
   ⟨"CU", "Cuba", .americas⟩,
   ⟨"CV", "Cabo Verde", .africa⟩,
   ⟨"CW", "Curaçao", .americas⟩,
   ⟨"CX", "Christmas Island", .oceania⟩,
   ⟨"CY", "Cyprus", .europe⟩,
   ⟨"CZ", "Czech Republic", .europe⟩,
   ⟨"DE", "Germany", .europe⟩,
   ⟨"DJ", "Djibouti", .africa⟩,
   ⟨"DK", "Denmark", .europe⟩,
   ⟨"DM", "Dominica", .americas⟩,
   ⟨"DO", "Dominican Republic", .americas⟩,
   ⟨"DZ", "Algeria", .africa⟩,
   ⟨"EC", "Ecuador", .americas⟩,
   ⟨"EE", "Estonia", .europe⟩,
   ⟨"EG", "Egypt", .africa⟩,
   ⟨"EH", "Western Sahara", .africa⟩,
   ⟨"ER", "Eritrea", .africa⟩,
   ⟨"ES", "Spain", .europe⟩,
   ⟨"ET", "Ethiopia", .africa⟩,
   ⟨"FI", "Finland", .europe⟩,
   ⟨"FJ", "Fiji", .oceania⟩,
   ⟨"FK", "Falkland Islands (Malvinas)", .americas⟩,
   ⟨"FM", "Micronesia (Federated States of)", .oceania⟩,
   ⟨"FO", "Faroe Islands", .europe⟩,
   ⟨"FR", "France", .europe⟩,
   ⟨"GA", "Gabon", .africa⟩,
   ⟨"GB", "United Kingdom of Great Britain and Northern Ireland", .europe⟩,
   ⟨"GD", "Grenada", .americas⟩,
   ⟨"GE", "Georgia", .asia⟩,
   ⟨"GF", "French Guiana", .americas⟩,
   ⟨"GG", "Guernsey", .europe⟩,
   ⟨"GH", "Ghana", .africa⟩,
   ⟨"GI", "Gibraltar", .europe⟩,
   ⟨"GL", "Greenland", .americas⟩,
   ⟨"GM", "Gambia", .africa⟩,
   ⟨"GN", "Guinea", .africa⟩,
   ⟨"GP", "Guadeloupe", .americas⟩,
   ⟨"GQ", "Equatorial Guinea", .africa⟩,
   ⟨"GR", "Greece", .europe⟩,
   ⟨"GS", "South Georgia and the South Sandwich Islands", .americas⟩,
   ⟨"GT", "Guatemala", .americas⟩,
   ⟨"GU", "Guam", .oceania⟩,
   ⟨"GW", "Guinea-Bissau", .africa⟩,
   ⟨"GY", "Guyana", .americas⟩,
   ⟨"HK", "Hong Kong", .asia⟩,
   ⟨"HN", "Honduras", .americas⟩,
   ⟨"HR", "Croatia", .europe⟩,
   ⟨"HT", "Haiti", .americas⟩,
   ⟨"HU", "Hungary", .europe⟩,
   ⟨"ID", "Indonesia", .asia⟩,
   ⟨"IE", "Ireland", .europe⟩,
   ⟨"IL", "Israel", .asia⟩,
   ⟨"IM", "Isle of Man", .europe⟩,
   ⟨"IN", "India", .asia⟩,
   ⟨"IO", "British Indian Ocean Territory", .africa⟩,
   ⟨"IQ", "Iraq", .asia⟩,
   ⟨"IR", "Iran (Islamic Republic of)", .asia⟩,
   ⟨"IS", "Iceland", .europe⟩,
   ⟨"IT", "Italy", .europe⟩,
   ⟨"JE", "Jersey", .europe⟩,
   ⟨"JM", "Jamaica", .americas⟩,
   ⟨"JO", "Jordan", .asia⟩,
   ⟨"JP", "Japan", .asia⟩,
   ⟨"KE", "Kenya", .africa⟩,
   ⟨"KG", "Kyrgyzstan", .asia⟩,
   ⟨"KH", "Cambodia", .asia⟩,
   ⟨"KI", "Kiribati", .oceania⟩,
   ⟨"KM", "Comoros", .africa⟩,
   ⟨"KN", "Saint Kitts and Nevis", .americas⟩,
   ⟨"KP", "Korea (Democratic People's Republic of)", .asia⟩,
   ⟨"KR", "Korea (Republic of)", .asia⟩,
   ⟨"KW", "Kuwait", .asia⟩,
   ⟨"KY", "Cayman Islands", .americas⟩,
   ⟨"KZ", "Kazakhstan", .asia⟩,
   ⟨"LA", "Lao People's Democratic Republic", .asia⟩,
   ⟨"LB", "Lebanon", .asia⟩,
   ⟨"LC", "Saint Lucia", .americas⟩,
   ⟨"LI", "Liechtenstein", .europe⟩,
   ⟨"LK", "Sri Lanka", .asia⟩,
   ⟨"LR", "Liberia", .africa⟩,
   ⟨"LS", "Lesotho", .africa⟩,
   ⟨"LT", "Lithuania", .europe⟩,
   ⟨"LU", "Luxembourg", .europe⟩,
   ⟨"LV", "Latvia", .europe⟩,
   ⟨"LY", "Libya", .africa⟩,
   ⟨"MA", "Morocco", .africa⟩,
   ⟨"MC", "Monaco", .europe⟩,
   ⟨"MD", "Moldova (Republic of)", .europe⟩,
   ⟨"ME", "Montenegro", .europe⟩,
   ⟨"MF", "Saint Martin (French part)", .americas⟩,
   ⟨"MG", "Madagascar", .africa⟩,
   ⟨"MH", "Marshall Islands", .oceania⟩,
   ⟨"MK", "Macedonia (the former Yugoslav Republic of)", .europe⟩,
   ⟨"ML", "Mali", .africa⟩,
   ⟨"MM", "Myanmar", .asia⟩,
   ⟨"MN", "Mongolia", .asia⟩,
   ⟨"MO", "Macao", .asia⟩,
   ⟨"MP", "Northern Mariana Islands", .oceania⟩,
   ⟨"MQ", "Martinique", .americas⟩,
   ⟨"MR", "Mauritania", .africa⟩,
   ⟨"MS", "Montserrat", .americas⟩,
   ⟨"MT", "Malta", .europe⟩,
   ⟨"MU", "Mauritius", .africa⟩,
   ⟨"MV", "Maldives", .asia⟩,
   ⟨"MW", "Malawi", .africa⟩,
   ⟨"MX", "Mexico", .americas⟩,
   ⟨"MY", "Malaysia", .asia⟩,
   ⟨"MZ", "Mozambique", .africa⟩,
   ⟨"NA", "Namibia", .africa⟩,
   ⟨"NC", "New Caledonia", .oceania⟩,
   ⟨"NE", "Niger", .africa⟩,
   ⟨"NF", "Norfolk Island", .oceania⟩,
   ⟨"NG", "Nigeria", .africa⟩,
   ⟨"NI", "Nicaragua", .americas⟩,
   ⟨"NL", "Netherlands", .europe⟩,
   ⟨"NO", "Norway", .europe⟩,
   ⟨"NP", "Nepal", .asia⟩,
   ⟨"NR", "Nauru", .oceania⟩,
   ⟨"NU", "Niue", .oceania⟩,
   ⟨"NZ", "New Zealand", .oceania⟩,
   ⟨"OM", "Oman", .asia⟩,
   ⟨"PA", "Panama", .americas⟩,
   ⟨"PE", "Peru", .americas⟩,
   ⟨"PF", "French Polynesia", .oceania⟩,
   ⟨"PG", "Papua New Guinea", .oceania⟩,
   ⟨"PH", "Philippines", .asia⟩,
   ⟨"PK", "Pakistan", .asia⟩,
   ⟨"PL", "Poland", .europe⟩,
   ⟨"PM", "Saint Pierre and Miquelon", .americas⟩,
   ⟨"PN", "Pitcairn", .oceania⟩,
   ⟨"PR", "Puerto Rico", .americas⟩,
   ⟨"PS", "Palestine, State of", .asia⟩,
   ⟨"PT", "Portugal", .europe⟩,
   ⟨"PW", "Palau", .oceania⟩,
   ⟨"PY", "Paraguay", .americas⟩,
   ⟨"QA", "Qatar", .asia⟩,
   ⟨"RE", "Réunion", .africa⟩,
   ⟨"RO", "Romania", .europe⟩,
   ⟨"RS", "Serbia", .europe⟩,
   ⟨"RU", "Russian Federation", .europe⟩,
   ⟨"RW", "Rwanda", .africa⟩,
   ⟨"SA", "Saudi Arabia", .asia⟩,
   ⟨"SB", "Solomon Islands", .oceania⟩,
   ⟨"SC", "Seychelles", .africa⟩,
   ⟨"SD", "Sudan", .africa⟩,
   ⟨"SE", "Sweden", .europe⟩,
   ⟨"SG", "Singapore", .asia⟩,
   ⟨"SH", "Saint Helena, Ascension and Tristan da Cunha", .africa⟩,
   ⟨"SI", "Slovenia", .europe⟩,
   ⟨"SJ", "Svalbard and Jan Mayen", .europe⟩,
   ⟨"SK", "Slovakia", .europe⟩,
   ⟨"SL", "Sierra Leone", .africa⟩,
   ⟨"SM", "San Marino", .europe⟩,
   ⟨"SN", "Senegal", .africa⟩,
   ⟨"SO", "Somalia", .africa⟩,
   ⟨"SR", "Suriname", .americas⟩,
   ⟨"SS", "South Sudan", .africa⟩,
   ⟨"ST", "Sao Tome and Principe", .africa⟩,
   ⟨"SV", "El Salvador", .americas⟩,
   ⟨"SX", "Sint Maarten (Dutch part)", .americas⟩,
   ⟨"SY", "Syrian Arab Republic", .asia⟩,
   ⟨"SZ", "Swaziland", .africa⟩,
   ⟨"TC", "Turks and Caicos Islands", .americas⟩,
   ⟨"TD", "Chad", .africa⟩,
   ⟨"TF", "French Southern Territories", .africa⟩,
   ⟨"TG", "Togo", .africa⟩,
   ⟨"TH", "Thailand", .asia⟩,
   ⟨"TJ", "Tajikistan", .asia⟩,
   ⟨"TK", "Tokelau", .oceania⟩,
   ⟨"TL", "Timor-Leste", .asia⟩,
   ⟨"TM", "Turkmenistan", .asia⟩,
   ⟨"TN", "Tunisia", .africa⟩,
   ⟨"TO", "Tonga", .oceania⟩,
   ⟨"TR", "Turkey", .asia⟩,
   ⟨"TT", "Trinidad and Tobago", .americas⟩,
   ⟨"TV", "Tuvalu", .oceania⟩,
   ⟨"TW", "Taiwan", .asia⟩,
   ⟨"TZ", "Tanzania, United Republic of", .africa⟩,
   ⟨"UA", "Ukraine", .europe⟩,
   ⟨"UG", "Uganda", .africa⟩,
   ⟨"UM", "United States Minor Outlying Islands", .americas⟩,
   ⟨"US", "United States of America", .americas⟩,
   ⟨"UY", "Uruguay", .americas⟩,
   ⟨"UZ", "Uzbekistan", .asia⟩,
   ⟨"VA", "Holy See", .europe⟩,
   ⟨"VC", "Saint Vincent and the Grenadines", .americas⟩,
   ⟨"VE", "Venezuela (Bolivarian Republic of)", .americas⟩,
   ⟨"VG", "Virgin Islands (British)", .americas⟩,
   ⟨"VI", "Virgin Islands (U.S.)", .americas⟩,
   ⟨"VN", "Vietnam", .asia⟩,
   ⟨"VU", "Vanuatu", .oceania⟩,
   ⟨"WF", "Wallis and Futuna", .oceania⟩,
   ⟨"WS", "Samoa", .oceania⟩,
   ⟨"XK", "Republic of Kosovo", .europe⟩,
   ⟨"YE", "Yemen", .asia⟩,
   ⟨"YT", "Mayotte", .africa⟩,
   ⟨"ZA", "South Africa", .africa⟩,
   ⟨"ZM", "Zambia", .africa⟩,
   ⟨"ZW", "Zimbabwe", .africa⟩]

def codes : List String :=
  all.map Country.code

/-- The country of a code. -/
def find? (code : String) : Option Country :=
  all.find? fun country => country.code == code

def isKnown (code : String) : Bool :=
  (find? code).isSome

/-- The countries of a list of codes, in its order; unknown codes are left
out. -/
def ofCodes (codes : List String) : List Country :=
  codes.filterMap find?

-- ======================================= the single euro payments area

/-- Members of the area that use the euro. -/
def sepaEuroCodes : List String :=
  ["AT", "BE", "CY", "DE", "EE", "FI", "FR", "GR", "IE", "IT", "LV", "LT",
   "LU", "MC", "MT", "NL", "PT", "SK", "SI", "ES", "AD", "SM", "VA"]

/-- Members of the area with another currency. -/
def sepaNonEuroCodes : List String :=
  ["BG", "HR", "CZ", "DK", "GB", "HU", "PL", "RO", "SE", "IS", "NO", "LI",
   "CH", "JE", "GI"]

/-- All members of the area, in ascending order. -/
def sepaCodes : List String :=
  (sepaEuroCodes ++ sepaNonEuroCodes).mergeSort

def isSepa (code : String) : Bool :=
  sepaEuroCodes.contains code || sepaNonEuroCodes.contains code

/-- The countries whose own bank transfers are offered beside those of the
area. -/
def nationalBankCodes : List String :=
  codes.filter fun code => !sepaEuroCodes.contains code

end Country

end FiatAccounts
