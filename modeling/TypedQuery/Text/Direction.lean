import TypedQuery.Text.Range

/-!
# Directions of writing

Each character that a domain name may hold has a direction. Letters run to the right or to the left;
digits, marks and signs go along with the letters around them.
-/

namespace TypedQuery.Text

/-- The direction of a character. -/
inductive Direction where
  /-- A letter that runs from left to right. -/
  | rightward
  /-- A letter that runs from right to left. -/
  | leftward
  /-- An Arabic letter, which runs from right to left too. -/
  | arabic
  | digit
  | arabicDigit
  /-- A mark on the character before it. -/
  | mark
  | hyphen
  | neutral
  /-- A character without a form of its own. -/
  | invisible
  deriving DecidableEq

namespace Direction

/-- Letters that run from right to left. -/
def leftwards : Ranges :=
  .ofText
   "5D0-5F4 7C0-7EA 7F4-7F5 800-815 81A 824 828 840-858 10800-10939 10980-10A00 10A10-10A35
    10A60-10AE4 10B00-10CF2 10E80-10EA9 10EB0-10EB1 10F00-10F27 10F70-10F81 10FB0-10FF6 1E800-1E8C4
    1E922-1E943 1E94B-1E959"

/-- Arabic letters. -/
def arabics : Ranges :=
  .ofText
   "620-64A 66E-66F 671-6D5 6E5-6E6 6EE-6EF 6FA-710 712-72F 74D-7A5 7B1 860-88E 8A0-8C9 FE73
    10D00-10D23 10F30-10F45"

/-- Digits. -/
def digits : Ranges :=
  .ofText
   "30-39 6F0-6F9"

/-- Arabic digits. -/
def arabicDigits : Ranges :=
  .ofText
   "660-669 10D30-10D39"

/-- Marks. -/
def marksOf : Ranges :=
  .ofText
   "300-36F 483-487 591-5C7 610-61A 64B-65F 670 6D6-6E4 6E7-6ED 711 730-74A 7A6-7B0 7EB-7F3 7FD
    816-819 81B-823 825-827 829-82D 859-85B 898-89F 8CA-902 93A 93C 941-948 94D 951-957 962-963 981
    9BC 9C1-9C4 9CD 9E2-9E3 9FE-A02 A3C A41-A51 A70-A71 A75-A82 ABC AC1-AC8 ACD AE2-AE3 AFA-B01 B3C
    B3F B41-B44 B4D-B56 B62-B63 B82 BC0 BCD C00 C04 C3C C3E-C40 C46-C56 C62-C63 C81 CBC CCC-CCD
    CE2-CE3 D00-D01 D3B-D3C D41-D44 D4D D62-D63 D81 DCA DD2-DD6 E31 E34-E3A E47-E4E EB1 EB4-EBC
    EC8-ECD F18-F19 F35-F39 F71-F7E F80-F87 F8D-FC6 102D-1030 1032-1037 1039-103A 103D-103E
    1058-1059 105E-1060 1071-1074 1082 1085-1086 108D 109D 135D-135F 1712-1714 1732-1733 1752-1753
    1772-1773 17B7-17BD 17C6 17C9-17D3 17DD 1885-1886 18A9 1920-1922 1927-1928 1932 1939-193B
    1A17-1A18 1A1B 1A56 1A58-1A60 1A62 1A65-1A6C 1A73-1A7F 1AB0-1ACE 1B00-1B03 1B34 1B36-1B3A 1B3C
    1B42 1B6B-1B81 1BA2-1BA5 1BA8-1BA9 1BAB-1BAD 1BE6 1BE8-1BE9 1BED 1BEF-1BF1 1C2C-1C33 1C36-1C37
    1CD0-1CE0 1CE2-1CE8 1CED 1CF4 1CF8-1CF9 1DC0-1DFF 2CEF-2CF1 2D7F 2DE0-2DFF 302A-302D 3099-309A
    A66F-A67D A69E-A69F A6F0-A6F1 A802 A806 A80B A825-A826 A82C A8C4-A8C5 A8E0-A8F1 A8FF A926-A92D
    A947-A951 A980-A982 A9B3 A9B6-A9B9 A9BC-A9BD A9E5 AA29-AA2E AA31-AA32 AA35-AA36 AA43 AA4C AA7C
    AAB0 AAB2-AAB4 AAB7-AAB8 AABE-AABF AAC1 AAEC-AAED AAF6 ABE5 ABE8 ABED FB1E-FE2F 101FD 102E0
    10376-1037A 10A01-10A0F 10A38-10A3F 10AE5-10AE6 10D24-10D27 10EAB-10EAC 10F46-10F50 10F82-10F85
    11001 11038-11046 11070 11073-11074 1107F-11081 110B3-110B6 110B9-110C2 11100-11102 11127-1112B
    1112D-11134 11173 11180-11181 111B6-111BE 111C9-111CC 111CF 1122F-11231 11234 11236-1123E 112DF
    112E3-112EA 11300-11301 1133B-1133C 11340 11366-11374 11438-1143F 11442-11444 11446 1145E
    114B3-114B8 114BA 114BF-114C0 114C2-114C3 115B2-115B5 115BC-115BD 115BF-115C0 115DC-115DD
    11633-1163A 1163D 1163F-11640 116AB 116AD 116B0-116B5 116B7 1171D-1171F 11722-11725 11727-1172B
    1182F-11837 11839-1183A 1193B-1193C 1193E 11943 119D4-119DB 119E0 11A01-11A06 11A09-11A0A
    11A33-11A38 11A3B-11A47 11A51-11A56 11A59-11A5B 11A8A-11A96 11A98-11A99 11C30-11C3D 11C92-11CA7
    11CAA-11CB0 11CB2-11CB3 11CB5-11CB6 11D31-11D45 11D47 11D90-11D91 11D95 11D97 11EF3-11EF4
    16AF0-16AF4 16B30-16B36 16F4F 16F8F-16F92 16FE4 1BC9D-1DAAF 1E000-1E02A 1E130-1E136 1E2AE
    1E2EC-1E2EF 1E8D0-1E8D6 1E944-1E94A"

/-- Neutral signs. -/
def neutrals : Ranges :=
  .ofText
   "B7 2B9-2BA 2C6-2CF 2EC 375 2E2F 30FB A67F A717-A71F A788"

/-- Characters whose direction is not known. -/
def unknowns : Ranges :=
  .ofText
   "88F-897 C5C CDC CF3 ECE 1ACF-1AEB 1C8A A7CD-A7CF A7DB 105C0-105F3 10940-10959 10D40-10D85
    10EC2-10EFF 1123F-11241 11380-113E2 116D0-116E3 11B60-11BF9 11DB0-11DE9 11F00-11F5A 1342F-143FA
    16100-16139 16D40-16D79 16EBB-16ED3 16FF2-16FF3 187F8-187FF 18CFF 18D09-18DF2 1B132 1B155
    1DF25-1DF2A 1E08F 1E4D0-1E6FF 2B739-2B73F 2CEA2-2CEAD 2EBF0-2EE5D 31350-33479"

/-- The direction of a character, unless it is not known. -/
def of? (n : Nat) : Option Direction :=
  if n = 0x2D then some .hyphen
  else if n = 0x200C || n = 0x200D then some .invisible
  else if digits.has n then some .digit
  else if leftwards.has n then some .leftward
  else if arabics.has n then some .arabic
  else if arabicDigits.has n then some .arabicDigit
  else if marksOf.has n then some .mark
  else if neutrals.has n then some .neutral
  else if unknowns.has n then none
  else some .rightward

/-- Whether a text with the character is held to the rule for mixed directions. -/
def isLeftward (d : Direction) : Bool := d == .leftward || d == .arabic || d == .arabicDigit

end Direction

end TypedQuery.Text
