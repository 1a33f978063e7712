import Shelfmark.Character.Range

/-!
# Characters - The base of a Latin letter

A letter with a diacritic files under the plain letter.  For most of them the
plain letter is the first character of the canonical decomposition; a few
crossed or dotted capitals have no decomposition and are listed on their own.
-/

namespace Shelfmark
namespace Character

/-- Capital letters that file under an ASCII letter although they do not decompose. -/
def undecomposedLetters : List (Char × Char) :=
  [('Ø', 'O'), ('Ł', 'L'), ('Đ', 'D'), ('Ð', 'D'), ('Ħ', 'H'), ('Ŧ', 'T'), ('Ŀ', 'L')]

/-- For each ASCII letter the characters whose canonical decomposition begins with it, in
either case. -/
def decomposedLetters : List (Char × String) :=
  [('A', "ÀÁÂÃÄÅàáâãäåĀāĂăĄąǍǎǞǟǠǡǺǻȀȁȂȃȦȧḀḁẠạẢảẤấẦầẨẩẪẫẬậẮắẰằẲẳẴẵẶặÅ"),
   ('B', "ḂḃḄḅḆḇ"),
   ('C', "ÇçĆćĈĉĊċČčḈḉ"),
   ('D', "ĎďḊḋḌḍḎḏḐḑḒḓ"),
   ('E', "ÈÉÊËèéêëĒēĔĕĖėĘęĚěȄȅȆȇȨȩḔḕḖḗḘḙḚḛḜḝẸẹẺẻẼẽẾếỀềỂểỄễỆệ"),
   ('F', "Ḟḟ"),
   ('G', "ĜĝĞğĠġĢģǦǧǴǵḠḡ"),
   ('H', "ĤĥȞȟḢḣḤḥḦḧḨḩḪḫẖ"),
   ('I', "ÌÍÎÏìíîïĨĩĪīĬĭĮįİǏǐȈȉȊȋḬḭḮḯỈỉỊị"),
   ('J', "Ĵĵǰ"),
   ('K', "ĶķǨǩḰḱḲḳḴḵK"),
   ('L', "ĹĺĻļĽľḶḷḸḹḺḻḼḽ"),
   ('M', "ḾḿṀṁṂṃ"),
   ('N', "ÑñŃńŅņŇňǸǹṄṅṆṇṈṉṊṋ"),
   ('O', "ÒÓÔÕÖòóôõöŌōŎŏŐőƠơǑǒǪǫǬǭȌȍȎȏȪȫȬȭȮȯȰȱṌṍṎṏṐṑṒṓỌọỎỏỐốỒồỔổỖỗỘộỚớỜờỞởỠỡỢợ"),
   ('P', "ṔṕṖṗ"),
   ('R', "ŔŕŖŗŘřȐȑȒȓṘṙṚṛṜṝṞṟ"),
   ('S', "ŚśŜŝŞşŠšȘșṠṡṢṣṤṥṦṧṨṩ"),
   ('T', "ŢţŤťȚțṪṫṬṭṮṯṰṱẗ"),
   ('U', "ÙÚÛÜùúûüŨũŪūŬŭŮůŰűŲųƯưǓǔǕǖǗǘǙǚǛǜȔȕȖȗṲṳṴṵṶṷṸṹṺṻỤụỦủỨứỪừỬửỮữỰự"),
   ('V', "ṼṽṾṿ"),
   ('W', "ŴŵẀẁẂẃẄẅẆẇẈẉẘ"),
   ('X', "ẊẋẌẍ"),
   ('Y', "ÝýÿŶŷŸȲȳẎẏẙỲỳỴỵỶỷỸỹ"),
   ('Z', "ŹźŻżŽžẐẑẒẓẔẕ")]

/-- The ASCII capital that a letter with a diacritic files under. -/
def latinBase? (c : Char) : Option Char :=
  match undecomposedLetters.lookup c with
  | some base => some base
  | none => (decomposedLetters.find? fun entry => entry.2.toList.contains c).map (·.1)

end Character
end Shelfmark
