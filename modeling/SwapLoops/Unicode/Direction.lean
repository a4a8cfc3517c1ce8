import SwapLoops.Unicode.Table

/-! The direction in which characters are written. -/

namespace SwapLoops.Unicode

/-- Classes of direction. Separators and signs that fit in either direction are neutral. -/
inductive Direction
  | left
  | right
  | arabicLetter
  | europeanNumber
  | arabicNumber
  | mark
  | neutral
  | other
deriving DecidableEq, Repr

def Direction.ofName? : List Char → Option Direction
  | ['L'] => some .left
  | ['R'] => some .right
  | ['A'] => some .arabicLetter
  | ['E'] => some .europeanNumber
  | ['N'] => some .arabicNumber
  | ['M'] => some .mark
  | ['O'] => some .neutral
  | ['X'] => some .other
  | _ => none

def directionText : String := "
  0:O 9:X E:O 1C:X 21:O 30:E 3A:O 61:L 7B:O DF:L F7:O F8:L 2B9:O 2BB:L 2C2:O 2D0:L 2D2:O 2EE:L
  2EF:O 300:M 371:L 375:O 377:L 3F6:O 3F8:L 483:M 48B:L 58A:O 591:M 5BE:R 5BF:M 5C0:R 5C1:M
  5C3:R 5C4:M 5C6:R 5C7:M 5D0:R 606:O 608:A 609:O 60B:A 60C:O 60D:A 60E:O 610:M 61B:A 64B:M
  660:N 66A:O 66B:N 66D:A 670:M 671:A 6D6:M 6DE:O 6DF:M 6E5:A 6E7:M 6E9:O 6EA:M 6EE:A 6F0:E
  6FA:A 711:M 712:A 730:M 74D:A 7A6:M 7B1:A 7C0:R 7EB:M 7F4:R 7F6:O 7FA:R 7FD:M 7FE:R 816:M
  81A:R 81B:M 824:R 825:M 828:R 829:M 830:R 859:M 85E:R 860:A 897:M 8A0:A 8CA:M 903:L 93A:M
  93B:L 93C:M 93D:L 941:M 949:L 94D:M 94E:L 951:M 960:L 962:M 964:L 981:M 982:L 9BC:M 9BD:L
  9C1:M 9C7:L 9CD:M 9CE:L 9E2:M 9E6:L 9F2:O 9F4:L 9FB:O 9FC:L 9FE:M A03:L A3C:M A3E:L A41:M
  A5C:L A70:M A72:L A75:M A76:L A81:M A83:L ABC:M ABD:L AC1:M AC9:L ACD:M AD0:L AE2:M AE6:L
  AF1:O AF9:L AFA:M B02:L B3C:M B3D:L B3F:M B40:L B41:M B47:L B4D:M B57:L B62:M B66:L B82:M
  B83:L BC0:M BC1:L BCD:M BD0:L BF3:O C00:M C01:L C04:M C05:L C3C:M C3D:L C3E:M C41:L C46:M
  C58:L C62:M C66:L C78:O C7F:L C81:M C82:L CBC:M CBD:L CCC:M CD5:L CE2:M CE6:L D00:M D02:L
  D3B:M D3D:L D41:M D46:L D4D:M D4E:L D62:M D66:L D81:M D82:L DCA:M DCF:L DD2:M DD8:L E31:M
  E32:L E34:M E3F:O E40:L E47:M E4F:L EB1:M EB2:L EB4:M EBD:L EC8:M ED0:L F18:M F1A:L F35:M
  F36:L F37:M F38:L F39:M F3A:O F3E:L F71:M F7F:L F80:M F85:L F86:M F88:L F8D:M FBE:L FC6:M
  FC7:L 102D:M 1031:L 1032:M 1038:L 1039:M 103B:L 103D:M 103F:L 1058:M 105A:L 105E:M 1061:L
  1071:M 1075:L 1082:M 1083:L 1085:M 1087:L 108D:M 108E:L 109D:M 109E:L 135D:M 1360:L 1390:O
  13A0:L 1400:O 1401:L 169B:O 16A0:L 1712:M 1715:L 1732:M 1734:L 1752:M 1760:L 1772:M 1780:L
  17B7:M 17BE:L 17C6:M 17C7:L 17C9:M 17D4:L 17DB:O 17DC:L 17DD:M 17E0:L 17F0:O 1810:L 1885:M
  1887:L 18A9:M 18AA:L 1920:M 1923:L 1927:M 1929:L 1932:M 1933:L 1939:M 1940:O 1946:L 19DE:O
  1A00:L 1A17:M 1A19:L 1A1B:M 1A1E:L 1A56:M 1A57:L 1A58:M 1A61:L 1A62:M 1A63:L 1A65:M 1A6D:L
  1A73:M 1A80:L 1AB0:M 1B04:L 1B34:M 1B35:L 1B36:M 1B3B:L 1B3C:M 1B3D:L 1B42:M 1B43:L 1B4E:O
  1B50:L 1B6B:M 1B74:L 1B7F:O 1B80:M 1B82:L 1BA2:M 1BA6:L 1BA8:M 1BAA:L 1BAB:M 1BAE:L 1BE6:M
  1BE7:L 1BE8:M 1BEA:L 1BED:M 1BEE:L 1BEF:M 1BF2:L 1C2C:M 1C34:L 1C36:M 1C3B:L 1CD0:M 1CD3:L
  1CD4:M 1CE1:L 1CE2:M 1CE9:L 1CED:M 1CEE:L 1CF4:M 1CF5:L 1CF8:M 1CFA:L 1DC0:M 1E01:L 200C:O
  20D0:M 2104:O 214E:L 218A:O 2336:L 237B:O 2395:L 2396:O 26AC:L 26AD:O 2800:L 2900:O 2C30:L
  2CE5:O 2CEC:L 2CEF:M 2CF3:L 2CF9:O 2D00:L 2D7F:M 2D80:L 2DE0:M 2E00:O 3005:L 3008:O 3021:L
  302A:M 302E:L 3030:O 3031:L 3037:O 303B:L 303D:O 3041:L 3099:M 309D:L 30A0:O 30A1:L 30FB:O
  30FC:L 31C0:O 31F0:L 4DC0:O 4E00:L A490:O A4D0:L A60D:O A610:L A66F:M A673:O A674:M A67E:O
  A681:L A69E:M A6A0:L A6F0:M A6F2:L A700:O A723:L A788:O A789:L A802:M A803:L A806:M A807:L
  A80B:M A80C:L A825:M A827:L A828:O A82C:M A830:L A838:O A840:L A874:O A880:L A8C4:M A8CE:L
  A8E0:M A8F2:L A8FF:M A900:L A926:M A92E:L A947:M A952:L A980:M A983:L A9B3:M A9B4:L A9B6:M
  A9BA:L A9BC:M A9BE:L A9E5:M A9E6:L AA29:M AA2F:L AA31:M AA33:L AA35:M AA40:L AA43:M AA44:L
  AA4C:M AA4D:L AA7C:M AA7D:L AAB0:M AAB1:L AAB2:M AAB5:L AAB7:M AAB9:L AABE:M AAC0:L AAC1:M
  AAC2:L AAEC:M AAEE:L AAF6:M AB01:L AB6A:O ABC0:L ABE5:M ABE6:L ABE8:M ABE9:L ABED:M ABF0:L
  FB1E:M FBB2:A FBC3:O FE20:M FE45:O FE73:A 10000:L 10101:O 10102:L 10140:O 1018D:L 10190:O
  101D0:L 101FD:M 10280:L 102E0:M 102E1:E 10300:L 10376:M 10380:L 10800:R 1091F:O 10920:R
  10A01:M 10A10:R 10A38:M 10A40:R 10AE5:M 10AEB:R 10B39:O 10B40:R 10D00:A 10D24:M 10D30:N
  10D40:R 10D69:M 10D6E:O 10D6F:R 10D8E:O 10E60:N 10E80:R 10EAB:M 10EAD:R 10EC2:A 10ED0:O
  10EFA:M 10F00:R 10F30:A 10F46:M 10F51:A 10F70:R 10F82:M 10F86:R 11000:L 11001:M 11002:L
  11038:M 11047:L 11052:O 11066:L 11070:M 11071:L 11073:M 11075:L 1107F:M 11082:L 110B3:M
  110B7:L 110B9:M 110BB:L 110C2:M 110D0:L 11100:M 11103:L 11127:M 1112C:L 1112D:M 11136:L
  11173:M 11174:L 11180:M 11182:L 111B6:M 111BF:L 111C9:M 111CD:L 111CF:M 111D0:L 1122F:M
  11232:L 11234:M 11235:L 11236:M 11238:L 1123E:M 1123F:L 11241:M 11280:L 112DF:M 112E0:L
  112E3:M 112F0:L 11300:M 11302:L 1133B:M 1133D:L 11340:M 11341:L 11366:M 11380:L 113BB:M
  113C2:L 113CE:M 113CF:L 113D0:M 113D1:L 113D2:M 113D3:L 113D4:O 113E1:M 11400:L 11438:M
  11440:L 11442:M 11445:L 11446:M 11447:L 1145E:M 1145F:L 114B3:M 114B9:L 114BA:M 114BB:L
  114BF:M 114C1:L 114C2:M 114C4:L 115B2:M 115B8:L 115BC:M 115BE:L 115BF:M 115C1:L 115DC:M
  11600:L 11633:M 1163B:L 1163D:M 1163E:L 1163F:M 11641:L 11660:O 11680:L 116AB:M 116AC:L
  116AD:M 116AE:L 116B0:M 116B6:L 116B7:M 116B8:L 1171D:M 11720:L 11722:M 11726:L 11727:M
  11730:L 1182F:M 11838:L 11839:M 1183B:L 1193B:M 1193D:L 1193E:M 1193F:L 11943:M 11944:L
  119D4:M 119DC:L 119E0:M 119E1:L 11A01:M 11A07:L 11A09:M 11A0B:L 11A33:M 11A39:L 11A3B:M
  11A3F:L 11A47:M 11A50:L 11A51:M 11A57:L 11A59:M 11A5C:L 11A8A:M 11A97:L 11A98:M 11A9A:L
  11B60:M 11B61:L 11B62:M 11B65:L 11B66:M 11B67:L 11BE1:O 11BF0:L 11C30:M 11C3E:L 11C92:M
  11CA9:L 11CAA:M 11CB1:L 11CB2:M 11CB4:L 11CB5:M 11D00:L 11D31:M 11D46:L 11D47:M 11D50:L
  11D90:M 11D93:L 11D95:M 11D96:L 11D97:M 11D98:L 11EF3:M 11EF5:L 11F00:M 11F02:L 11F36:M
  11F3E:L 11F40:M 11F41:L 11F42:M 11F43:L 11F5A:M 11FB0:L 11FD5:O 11FFF:L 13440:M 13441:L
  13447:M 13460:L 1611E:M 1612A:L 1612D:M 16130:L 16AF0:M 16AF5:L 16B30:M 16B37:L 16D6D:O
  16D70:L 16F4F:M 16F50:L 16F8F:M 16F93:L 16FE2:O 16FE3:L 16FE4:M 16FF0:L 1BC9D:M 1BC9F:L
  1CC00:O 1CF00:M 1CF50:L 1D167:M 1D16A:L 1D17B:M 1D183:L 1D185:M 1D18C:L 1D1AA:M 1D1AE:L
  1D1E9:O 1D242:M 1D245:O 1D2C0:L 1D300:O 1D360:L 1DA00:M 1DA37:L 1DA3B:M 1DA6D:L 1DA75:M
  1DA76:L 1DA84:M 1DA85:L 1DA9B:M 1DF00:L 1E000:M 1E100:L 1E130:M 1E137:L 1E2AE:M 1E2C0:L
  1E2EC:M 1E2F0:L 1E2FF:O 1E4D0:L 1E4EC:M 1E4F0:L 1E5EE:M 1E5F0:L 1E5FF:O 1E6C0:L 1E6E3:M
  1E6E4:L 1E6E6:M 1E6E7:L 1E6EE:M 1E6F0:L 1E6F5:M 1E6FE:L 1E800:R 1E8D0:M 1E922:R 1E944:M
  1E94B:R 1EC71:A 1EEF0:O 1F150:L 1F16D:O 1F170:L 1F1AD:O 1F1E6:L 1F260:O 20000:L
"

def directions : Steps Direction := Steps.ofText Direction.ofName? directionText

def direction (c : Char) : Direction := (directions.at? c).getD .left

end SwapLoops.Unicode
