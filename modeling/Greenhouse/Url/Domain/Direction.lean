import Greenhouse.Data.RangeTable

/-!
# Directions in domain names

Some scripts are written from right to left.  A name with letters of such a script could be
shown in a misleading order, so every label of it has to keep to one direction:
`Domain.keepsDirection`.
-/

namespace Greenhouse.Domain

/-- How a character takes part in the direction of a text. -/
inductive Direction where
  /-- A letter written from left to right. -/
  | left
  /-- A letter written from right to left. -/
  | right
  /-- A digit of the scripts written from right to left. -/
  | arabicNumber
  /-- Any other digit. -/
  | europeanNumber
  /-- A mark, which goes with the character before it. -/
  | mark
  /-- A sign without a direction of its own. -/
  | neutral
deriving DecidableEq

/-- The direction that a letter in the table stands for. -/
def Direction.ofWord : List Char → Direction
  | ['R'] => .right
  | ['A'] => .arabicNumber
  | ['E'] => .europeanNumber
  | ['N'] => .mark
  | _ => .neutral

/-- The directions of the characters that may stand in a name, but for those from left to
right. -/
def directions : RangeTable Direction := .ofText Direction.ofWord "
  0-2F=O 30-39=E 3A-60=O 7B-D7=O F7=O 2B9-2BA=O 2C2-2CF=O 2D2-2ED=O 2EF-2FF=O 300-36F=N 375=O
  3F6=O 483-489=N 58A-58F=O 591-5BD=N 5BE=R 5BF=N 5C0=R 5C1-5C2=N 5C3=R 5C4-5C5=N 5C6=R 5C7=N
  5D0-5F4=R 606-607=O 608=R 609-60A=O 60B=R 60C=O 60D=R 60E-60F=O 610-61A=N 61B-64A=R 64B-65F=N
  660-669=A 66A=O 66B-66C=A 66D-66F=R 670=N 671-6D5=R 6D6-6DC=N 6DE=O 6DF-6E4=N 6E5-6E6=R
  6E7-6E8=N 6E9=O 6EA-6ED=N 6EE-6EF=R 6F0-6F9=E 6FA-710=R 711=N 712-72F=R 730-74A=N 74D-7A5=R
  7A6-7B0=N 7B1-7EA=R 7EB-7F3=N 7F4-7F5=R 7F6-7F9=O 7FA=R 7FD=N 7FE-815=R 816-819=N 81A=R
  81B-823=N 824=R 825-827=N 828=R 829-82D=N 830-858=R 859-85B=N 85E-88F=R 897-89F=N 8A0-8C9=R
  8CA-902=N 93A=N 93C=N 941-948=N 94D=N 951-957=N 962-963=N 981=N 9BC=N 9C1-9C4=N 9CD=N 9E2-9E3=N
  9F2-9F3=O 9FB=O 9FE-A02=N A3C=N A41-A51=N A70-A71=N A75=N A81-A82=N ABC=N AC1-AC8=N ACD=N
  AE2-AE3=N AF1=O AFA-B01=N B3C=N B3F=N B41-B44=N B4D-B56=N B62-B63=N B82=N BC0=N BCD=N BF3-BFA=O
  C00=N C04=N C3C=N C3E-C40=N C46-C56=N C62-C63=N C78-C7E=O C81=N CBC=N CCC-CCD=N CE2-CE3=N
  D00-D01=N D3B-D3C=N D41-D44=N D4D=N D62-D63=N D81=N DCA=N DD2-DD6=N E31=N E34-E3A=N E3F=O
  E47-E4E=N EB1=N EB4-EBC=N EC8-ECE=N F18-F19=N F35=N F37=N F39=N F3A-F3D=O F71-F7E=N F80-F84=N
  F86-F87=N F8D-FBC=N FC6=N 102D-1030=N 1032-1037=N 1039-103A=N 103D-103E=N 1058-1059=N
  105E-1060=N 1071-1074=N 1082=N 1085-1086=N 108D=N 109D=N 135D-135F=N 1390-1399=O 1400=O
  169B-169C=O 1712-1714=N 1732-1733=N 1752-1753=N 1772-1773=N 17B7-17BD=N 17C6=N 17C9-17D3=N
  17DB=O 17DD=N 17F0-180A=O 1885-1886=N 18A9=N 1920-1922=N 1927-1928=N 1932=N 1939-193B=N
  1940-1945=O 19DE-19FF=O 1A17-1A18=N 1A1B=N 1A56=N 1A58-1A60=N 1A62=N 1A65-1A6C=N 1A73-1A7F=N
  1AB0-1B03=N 1B34=N 1B36-1B3A=N 1B3C=N 1B42=N 1B6B-1B73=N 1B80-1B81=N 1BA2-1BA5=N 1BA8-1BA9=N
  1BAB-1BAD=N 1BE6=N 1BE8-1BE9=N 1BED=N 1BEF-1BF1=N 1C2C-1C33=N 1C36-1C37=N 1CD0-1CD2=N
  1CD4-1CE0=N 1CE2-1CE8=N 1CED=N 1CF4=N 1CF8-1CF9=N 1DC0-1DFF=N 200C-20C1=O 20D0-20F0=N
  2104-214D=O 218A-2335=O 237B-2394=O 2396-26AB=O 26AD-27FF=O 2900-2BFF=O 2CE5-2CEA=O 2CEF-2CF1=N
  2CF9-2CFF=O 2D7F=N 2DE0-2DFF=N 2E00-3004=O 3008-3020=O 302A-302D=N 3030=O 3037=O 303D-303F=O
  3099-309A=N 30A0=O 30FB=O 31C0-31E5=O 4DC0-4DFF=O A490-A4C6=O A60D-A60F=O A66F-A672=N A673=O
  A674-A67D=N A67E-A67F=O A69E-A69F=N A6F0-A6F1=N A700-A721=O A788=O A802=N A806=N A80B=N
  A825-A826=N A828-A82B=O A82C=N A838-A839=O A874-A877=O A8C4-A8C5=N A8E0-A8F1=N A8FF=N
  A926-A92D=N A947-A951=N A980-A982=N A9B3=N A9B6-A9B9=N A9BC-A9BD=N A9E5=N AA29-AA2E=N
  AA31-AA32=N AA35-AA36=N AA43=N AA4C=N AA7C=N AAB0=N AAB2-AAB4=N AAB7-AAB8=N AABE-AABF=N AAC1=N
  AAEC-AAED=N AAF6=N AB6A-AB6B=O ABE5=N ABE8=N ABED=N FB1E=N FBB2-FBC2=R FBC3-FDFF=O FE20-FE2F=N
  FE45-FE46=O FE73=R 10101=O 10140-1018C=O 10190-101A0=O 101FD=N 102E0=N 102E1-102FB=E
  10376-1037A=N 10800-1091B=R 1091F=O 10920-10A00=R 10A01-10A0F=N 10A10-10A35=R 10A38-10A3F=N
  10A40-10AE4=R 10AE5-10AE6=N 10AEB-10B35=R 10B39-10B3F=O 10B40-10D23=R 10D24-10D27=N
  10D30-10D39=A 10D40-10D4F=R 10D69-10D6D=N 10D6E=O 10D6F-10D8F=R 10E60-10E7E=A 10E80-10EA9=R
  10EAB-10EAC=N 10EAD-10EC7=R 10ED0-10ED8=O 10EFA-10EFF=N 10F00-10F45=R 10F46-10F50=N
  10F51-10F81=R 10F82-10F85=N 10F86-10FF6=R 11001=N 11038-11046=N 11052-11065=O 11070=N
  11073-11074=N 1107F-11081=N 110B3-110B6=N 110B9-110BA=N 110C2=N 11100-11102=N 11127-1112B=N
  1112D-11134=N 11173=N 11180-11181=N 111B6-111BE=N 111C9-111CC=N 111CF=N 1122F-11231=N 11234=N
  11236-11237=N 1123E=N 11241=N 112DF=N 112E3-112EA=N 11300-11301=N 1133B-1133C=N 11340=N
  11366-11374=N 113BB-113C0=N 113CE=N 113D0=N 113D2=N 113E1-113E2=N 11438-1143F=N 11442-11444=N
  11446=N 1145E=N 114B3-114B8=N 114BA=N 114BF-114C0=N 114C2-114C3=N 115B2-115B5=N 115BC-115BD=N
  115BF-115C0=N 115DC-115DD=N 11633-1163A=N 1163D=N 1163F-11640=N 11660-1166C=O 116AB=N 116AD=N
  116B0-116B5=N 116B7=N 1171D-1171F=N 11722-11725=N 11727-1172B=N 1182F-11837=N 11839-1183A=N
  1193B-1193C=N 1193E=N 11943=N 119D4-119DB=N 119E0=N 11A01-11A06=N 11A09-11A0A=N 11A33-11A38=N
  11A3B-11A3E=N 11A47=N 11A51-11A56=N 11A59-11A5B=N 11A8A-11A96=N 11A98-11A99=N 11B60=N
  11B62-11B64=N 11B66=N 11C30-11C3D=N 11C92-11CA7=N 11CAA-11CB0=N 11CB2-11CB3=N 11CB5-11CB6=N
  11D31-11D45=N 11D47=N 11D90-11D91=N 11D95=N 11D97=N 11EF3-11EF4=N 11F00-11F01=N 11F36-11F3A=N
  11F40=N 11F42=N 11F5A=N 11FD5-11FF1=O 13440=N 13447-13455=N 1611E-16129=N 1612D-1612F=N
  16AF0-16AF4=N 16B30-16B36=N 16F4F=N 16F8F-16F92=N 16FE2=O 16FE4=N 1BC9D-1BC9E=N 1CC00-1CEF0=O
  1CF00-1CF46=N 1D167-1D169=N 1D17B-1D182=N 1D185-1D18B=N 1D1AA-1D1AD=N 1D1E9-1D241=O
  1D242-1D244=N 1D245=O 1D300-1D356=O 1DA00-1DA36=N 1DA3B-1DA6C=N 1DA75=N 1DA84=N 1DA9B-1DAAF=N
  1E000-1E08F=N 1E130-1E136=N 1E2AE=N 1E2EC-1E2EF=N 1E2FF=O 1E4EC-1E4EF=N 1E5EE-1E5EF=N 1E6E3=N
  1E6E6=N 1E6EE-1E6EF=N 1E6F5=N 1E800-1E8CF=R 1E8D0-1E8D6=N 1E922-1E943=R 1E944-1E94A=N
  1E94B-1ED3D=R 1EEF0-1F12F=O 1F16D-1F16F=O 1F1AD=O 1F260-1FBFA=O"

/-- The direction of a character. -/
def direction (c : Char) : Direction := (directions.find? c).getD .left

/-- Whether a character makes a name one that is written from right to left. -/
def isRightToLeft (c : Char) : Bool :=
  match direction c with
  | .right | .arabicNumber => true
  | _ => false

/-- Whether a label keeps to one direction.  Its first character, a letter, gives the direction;
at its end, marks apart, stands a letter of it or a digit; and from right to left there are digits
of one kind only. -/
def keepsDirection (label : List Char) : Bool :=
  let ds := label.map direction
  let core := (ds.reverse.dropWhile (· = .mark)).reverse
  match ds, core.getLast? with
  | [], _ => true
  | .left :: _, some last =>
    (last = .left || last = .europeanNumber) && ds.all fun d => d ≠ .right && d ≠ .arabicNumber
  | .right :: _, some last =>
    (last = .right || last = .arabicNumber || last = .europeanNumber) && !ds.contains .left
      && !(ds.contains .arabicNumber && ds.contains .europeanNumber)
  | _, _ => false

end Greenhouse.Domain
