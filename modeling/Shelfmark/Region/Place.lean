import Shelfmark.Text.Basic

/-!
# Regions - Known places

Three lists about places: the states and provinces whose names are abbreviated
when they qualify a smaller place, the words that name a kind of place, and the
places that are too large to qualify anything.
-/

namespace Shelfmark
namespace Region

/-- States, provinces and territories of the United States, Canada and Australia with their
abbreviations. -/
def abbreviations : List (String × String) :=
  [("Alabama", "Ala."), ("Alaska", "Alaska"), ("Arizona", "Ariz."), ("Arkansas", "Ark."),
   ("California", "Calif."), ("Colorado", "Colo."), ("Connecticut", "Conn."),
   ("Delaware", "Del."), ("Florida", "Fla."), ("Georgia", "Ga."), ("Hawaii", "Hawaii"),
   ("Idaho", "Idaho"), ("Illinois", "Ill."), ("Indiana", "Ind."), ("Iowa", "Iowa"),
   ("Kansas", "Kan."), ("Kentucky", "Ky."), ("Louisiana", "La."), ("Maine", "Maine"),
   ("Maryland", "Md."), ("Massachusetts", "Mass."), ("Michigan", "Mich."), ("Minnesota", "Minn."),
   ("Mississippi", "Miss."), ("Missouri", "Mo."), ("Montana", "Mont."), ("Nebraska", "Neb."),
   ("Nevada", "Nev."), ("New Hampshire", "N.H."), ("New Jersey", "N.J."), ("New Mexico", "N.M."),
   ("New York", "N.Y."), ("North Carolina", "N.C."), ("North Dakota", "N.D."), ("Ohio", "Ohio"),
   ("Oklahoma", "Okla."), ("Oregon", "Or."), ("Pennsylvania", "Pa."), ("Rhode Island", "R.I."),
   ("South Carolina", "S.C."), ("South Dakota", "S.D."), ("Tennessee", "Tenn."),
   ("Texas", "Tex."), ("Utah", "Utah"), ("Vermont", "Vt."), ("Virginia", "Va."),
   ("Washington", "Wash."), ("West Virginia", "W. Va."), ("Wisconsin", "Wis."),
   ("Wyoming", "Wyo."), ("New York (State)", "N.Y."), ("District of Columbia", "D.C."),
   ("Puerto Rico", "P.R."), ("Virgin Islands", "V.I."), ("Alberta", "Alta."),
   ("British Columbia", "B.C."), ("Manitoba", "Man."), ("Newfoundland and Labrador", "N.L."),
   ("New Brunswick", "N.B."), ("Northwest Territories", "N.W.T."), ("Nova Scotia", "N.S."),
   ("Nunavut", "Nunavut"), ("Ontario", "Ont."), ("Prince Edward Island", "P.E.I."),
   ("Quebec", "Québec"), ("Saskatchewan", "Sask."), ("Yukon", "Yukon"),
   ("Australian Capital Territory", "A.C.T."), ("New South Wales", "N.S.W."),
   ("Northern Territory", "N.T."), ("Queensland", "Qld."), ("South Australia", "S. Aust."),
   ("Tasmania", "Tas."), ("Victoria", "Vic."), ("Western Australia", "W.A.")]

/-- Words that name a kind of place. -/
def typeWords : List String :=
  ["State", "Republic", "Principality", "Province", "Township", "County", "Town",
   "Judicial district", "Prefecture", "Region", "District", "Dept.", "Kingdom", "Canton", "City",
   "Division", "Duchy", "Emirate", "Government", "Country", "Princely State", "Presidency",
   "Tahsil", "Taluka", "Tehsil", "Thana", "Sheng", "Amt", "Herred", "Amphoe", "Comté",
   "Corregimiento", "Distrito Federal", "Intendancy", "Partido", "Diocese", "diocese",
   "Archdiocese", "Archdeaconry", "Ecclesiastical principality", "Voivodeship", "Powiat",
   "Landkreis", "Kreis", "Bezirk", "Electorate", "Grafschaft", "Okres", "Oblast'", "Oblast",
   "Kray", "Comitat", "Judet", "Kabupaten", "Ancient city", "Ancient sanctuary", "Ancient site",
   "Extinct city", "Concentration camp", "Colony", "Site", "Peninsula", "Coast", "Cape", "Harbor",
   "Island", "Lake", "Oasis", "Tribal area"]

/-- Places that are left out of a chain below its first name. -/
def skippedPlaces : List String :=
  ["South America", "Central America", "United States"]

/-- The abbreviation of a state, province or territory. -/
def abbreviation? (place : Text) : Option Text :=
  (abbreviations.find? fun entry => entry.1.toList == place).map fun entry => entry.2.toList

/-- Whether a text names a kind of place. -/
def isTypeWord (word : Text) : Bool :=
  typeWords.any fun known => known.toList == word

/-- Whether a name is left out of a chain below its first name. -/
def isSkipped (name : Text) : Bool :=
  skippedPlaces.any fun known => known.toList == name

end Region
end Shelfmark
