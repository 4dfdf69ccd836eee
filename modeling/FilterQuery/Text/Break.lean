import FilterQuery.Text.RangeTable

/-! # Text segmentation properties

The values of the three segmentation properties of the Unicode standard (16.0) at each code
point: `Grapheme_Cluster_Break`, `Word_Break` and `Sentence_Break`. A code point in no range
has the value `Other`, which patterns cannot name. Each property's values are listed by
their loose names with their long names (`graphemeBreakNames`, `wordBreakNames`,
`sentenceBreakNames`). -/

namespace FilterQuery

namespace Text

/-- The `Grapheme_Cluster_Break` values, by ranges. -/
def graphemeBreakTable : RangeTable String :=
  RangeTable.ofText some (
  "0-9:Control A:LF B-C:Control D:CR E-1F:Control 7F-9F:Control AD:Control 300-36F:Extend 483-489:E" ++
  "xtend 591-5BD:Extend 5BF:Extend 5C1-5C2:Extend 5C4-5C5:Extend 5C7:Extend 600-605:Prepend 610-61A" ++
  ":Extend 61C:Control 64B-65F:Extend 670:Extend 6D6-6DC:Extend 6DD:Prepend 6DF-6E4:Extend 6E7-6E8:" ++
  "Extend 6EA-6ED:Extend 70F:Prepend 711:Extend 730-74A:Extend 7A6-7B0:Extend 7EB-7F3:Extend 7FD:Ex" ++
  "tend 816-819:Extend 81B-823:Extend 825-827:Extend 829-82D:Extend 859-85B:Extend 890-891:Prepend " ++
  "897-89F:Extend 8CA-8E1:Extend 8E2:Prepend 8E3-902:Extend 903:SpacingMark 93A:Extend 93B:SpacingM" ++
  "ark 93C:Extend 93E-940:SpacingMark 941-948:Extend 949-94C:SpacingMark 94D:Extend 94E-94F:Spacing" ++
  "Mark 951-957:Extend 962-963:Extend 981:Extend 982-983:SpacingMark 9BC:Extend 9BE:Extend 9BF-9C0:" ++
  "SpacingMark 9C1-9C4:Extend 9C7-9C8:SpacingMark 9CB-9CC:SpacingMark 9CD:Extend 9D7:Extend 9E2-9E3" ++
  ":Extend 9FE:Extend A01-A02:Extend A03:SpacingMark A3C:Extend A3E-A40:SpacingMark A41-A42:Extend " ++
  "A47-A48:Extend A4B-A4D:Extend A51:Extend A70-A71:Extend A75:Extend A81-A82:Extend A83:SpacingMar" ++
  "k ABC:Extend ABE-AC0:SpacingMark AC1-AC5:Extend AC7-AC8:Extend AC9:SpacingMark ACB-ACC:SpacingMa" ++
  "rk ACD:Extend AE2-AE3:Extend AFA-AFF:Extend B01:Extend B02-B03:SpacingMark B3C:Extend B3E-B3F:Ex" ++
  "tend B40:SpacingMark B41-B44:Extend B47-B48:SpacingMark B4B-B4C:SpacingMark B4D:Extend B55-B57:E" ++
  "xtend B62-B63:Extend B82:Extend BBE:Extend BBF:SpacingMark BC0:Extend BC1-BC2:SpacingMark BC6-BC" ++
  "8:SpacingMark BCA-BCC:SpacingMark BCD:Extend BD7:Extend C00:Extend C01-C03:SpacingMark C04:Exten" ++
  "d C3C:Extend C3E-C40:Extend C41-C44:SpacingMark C46-C48:Extend C4A-C4D:Extend C55-C56:Extend C62" ++
  "-C63:Extend C81:Extend C82-C83:SpacingMark CBC:Extend CBE:SpacingMark CBF-CC0:Extend CC1:Spacing" ++
  "Mark CC2:Extend CC3-CC4:SpacingMark CC6-CC8:Extend CCA-CCD:Extend CD5-CD6:Extend CE2-CE3:Extend " ++
  "CF3:SpacingMark D00-D01:Extend D02-D03:SpacingMark D3B-D3C:Extend D3E:Extend D3F-D40:SpacingMark" ++
  " D41-D44:Extend D46-D48:SpacingMark D4A-D4C:SpacingMark D4D:Extend D4E:Prepend D57:Extend D62-D6" ++
  "3:Extend D81:Extend D82-D83:SpacingMark DCA:Extend DCF:Extend DD0-DD1:SpacingMark DD2-DD4:Extend" ++
  " DD6:Extend DD8-DDE:SpacingMark DDF:Extend DF2-DF3:SpacingMark E31:Extend E33:SpacingMark E34-E3" ++
  "A:Extend E47-E4E:Extend EB1:Extend EB3:SpacingMark EB4-EBC:Extend EC8-ECE:Extend F18-F19:Extend " ++
  "F35:Extend F37:Extend F39:Extend F3E-F3F:SpacingMark F71-F7E:Extend F7F:SpacingMark F80-F84:Exte" ++
  "nd F86-F87:Extend F8D-F97:Extend F99-FBC:Extend FC6:Extend 102D-1030:Extend 1031:SpacingMark 103" ++
  "2-1037:Extend 1039-103A:Extend 103B-103C:SpacingMark 103D-103E:Extend 1056-1057:SpacingMark 1058" ++
  "-1059:Extend 105E-1060:Extend 1071-1074:Extend 1082:Extend 1084:SpacingMark 1085-1086:Extend 108" ++
  "D:Extend 109D:Extend 1100-115F:L 1160-11A7:V 11A8-11FF:T 135D-135F:Extend 1712-1715:Extend 1732-" ++
  "1734:Extend 1752-1753:Extend 1772-1773:Extend 17B4-17B5:Extend 17B6:SpacingMark 17B7-17BD:Extend" ++
  " 17BE-17C5:SpacingMark 17C6:Extend 17C7-17C8:SpacingMark 17C9-17D3:Extend 17DD:Extend 180B-180D:" ++
  "Extend 180E:Control 180F:Extend 1885-1886:Extend 18A9:Extend 1920-1922:Extend 1923-1926:SpacingM" ++
  "ark 1927-1928:Extend 1929-192B:SpacingMark 1930-1931:SpacingMark 1932:Extend 1933-1938:SpacingMa" ++
  "rk 1939-193B:Extend 1A17-1A18:Extend 1A19-1A1A:SpacingMark 1A1B:Extend 1A55:SpacingMark 1A56:Ext" ++
  "end 1A57:SpacingMark 1A58-1A5E:Extend 1A60:Extend 1A62:Extend 1A65-1A6C:Extend 1A6D-1A72:Spacing" ++
  "Mark 1A73-1A7C:Extend 1A7F:Extend 1AB0-1ACE:Extend 1B00-1B03:Extend 1B04:SpacingMark 1B34-1B3D:E" ++
  "xtend 1B3E-1B41:SpacingMark 1B42-1B44:Extend 1B6B-1B73:Extend 1B80-1B81:Extend 1B82:SpacingMark " ++
  "1BA1:SpacingMark 1BA2-1BA5:Extend 1BA6-1BA7:SpacingMark 1BA8-1BAD:Extend 1BE6:Extend 1BE7:Spacin" ++
  "gMark 1BE8-1BE9:Extend 1BEA-1BEC:SpacingMark 1BED:Extend 1BEE:SpacingMark 1BEF-1BF3:Extend 1C24-" ++
  "1C2B:SpacingMark 1C2C-1C33:Extend 1C34-1C35:SpacingMark 1C36-1C37:Extend 1CD0-1CD2:Extend 1CD4-1" ++
  "CE0:Extend 1CE1:SpacingMark 1CE2-1CE8:Extend 1CED:Extend 1CF4:Extend 1CF7:SpacingMark 1CF8-1CF9:" ++
  "Extend 1DC0-1DFF:Extend 200B:Control 200C:Extend 200D:ZWJ 200E-200F:Control 2028-202E:Control 20" ++
  "60-206F:Control 20D0-20F0:Extend 2CEF-2CF1:Extend 2D7F:Extend 2DE0-2DFF:Extend 302A-302F:Extend " ++
  "3099-309A:Extend A66F-A672:Extend A674-A67D:Extend A69E-A69F:Extend A6F0-A6F1:Extend A802:Extend" ++
  " A806:Extend A80B:Extend A823-A824:SpacingMark A825-A826:Extend A827:SpacingMark A82C:Extend A88" ++
  "0-A881:SpacingMark A8B4-A8C3:SpacingMark A8C4-A8C5:Extend A8E0-A8F1:Extend A8FF:Extend A926-A92D" ++
  ":Extend A947-A951:Extend A952:SpacingMark A953:Extend A960-A97C:L A980-A982:Extend A983:SpacingM" ++
  "ark A9B3:Extend A9B4-A9B5:SpacingMark A9B6-A9B9:Extend A9BA-A9BB:SpacingMark A9BC-A9BD:Extend A9" ++
  "BE-A9BF:SpacingMark A9C0:Extend A9E5:Extend AA29-AA2E:Extend AA2F-AA30:SpacingMark AA31-AA32:Ext" ++
  "end AA33-AA34:SpacingMark AA35-AA36:Extend AA43:Extend AA4C:Extend AA4D:SpacingMark AA7C:Extend " ++
  "AAB0:Extend AAB2-AAB4:Extend AAB7-AAB8:Extend AABE-AABF:Extend AAC1:Extend AAEB:SpacingMark AAEC" ++
  "-AAED:Extend AAEE-AAEF:SpacingMark AAF5:SpacingMark AAF6:Extend ABE3-ABE4:SpacingMark ABE5:Exten" ++
  "d ABE6-ABE7:SpacingMark ABE8:Extend ABE9-ABEA:SpacingMark ABEC:SpacingMark ABED:Extend AC00:LV A" ++
  "C01-AC1B:LVT AC1C:LV AC1D-AC37:LVT AC38:LV AC39-AC53:LVT AC54:LV AC55-AC6F:LVT AC70:LV AC71-AC8B" ++
  ":LVT AC8C:LV AC8D-ACA7:LVT ACA8:LV ACA9-ACC3:LVT ACC4:LV ACC5-ACDF:LVT ACE0:LV ACE1-ACFB:LVT ACF" ++
  "C:LV ACFD-AD17:LVT AD18:LV AD19-AD33:LVT AD34:LV AD35-AD4F:LVT AD50:LV AD51-AD6B:LVT AD6C:LV AD6" ++
  "D-AD87:LVT AD88:LV AD89-ADA3:LVT ADA4:LV ADA5-ADBF:LVT ADC0:LV ADC1-ADDB:LVT ADDC:LV ADDD-ADF7:L" ++
  "VT ADF8:LV ADF9-AE13:LVT AE14:LV AE15-AE2F:LVT AE30:LV AE31-AE4B:LVT AE4C:LV AE4D-AE67:LVT AE68:" ++
  "LV AE69-AE83:LVT AE84:LV AE85-AE9F:LVT AEA0:LV AEA1-AEBB:LVT AEBC:LV AEBD-AED7:LVT AED8:LV AED9-" ++
  "AEF3:LVT AEF4:LV AEF5-AF0F:LVT AF10:LV AF11-AF2B:LVT AF2C:LV AF2D-AF47:LVT AF48:LV AF49-AF63:LVT" ++
  " AF64:LV AF65-AF7F:LVT AF80:LV AF81-AF9B:LVT AF9C:LV AF9D-AFB7:LVT AFB8:LV AFB9-AFD3:LVT AFD4:LV" ++
  " AFD5-AFEF:LVT AFF0:LV AFF1-B00B:LVT B00C:LV B00D-B027:LVT B028:LV B029-B043:LVT B044:LV B045-B0" ++
  "5F:LVT B060:LV B061-B07B:LVT B07C:LV B07D-B097:LVT B098:LV B099-B0B3:LVT B0B4:LV B0B5-B0CF:LVT B" ++
  "0D0:LV B0D1-B0EB:LVT B0EC:LV B0ED-B107:LVT B108:LV B109-B123:LVT B124:LV B125-B13F:LVT B140:LV B" ++
  "141-B15B:LVT B15C:LV B15D-B177:LVT B178:LV B179-B193:LVT B194:LV B195-B1AF:LVT B1B0:LV B1B1-B1CB" ++
  ":LVT B1CC:LV B1CD-B1E7:LVT B1E8:LV B1E9-B203:LVT B204:LV B205-B21F:LVT B220:LV B221-B23B:LVT B23" ++
  "C:LV B23D-B257:LVT B258:LV B259-B273:LVT B274:LV B275-B28F:LVT B290:LV B291-B2AB:LVT B2AC:LV B2A" ++
  "D-B2C7:LVT B2C8:LV B2C9-B2E3:LVT B2E4:LV B2E5-B2FF:LVT B300:LV B301-B31B:LVT B31C:LV B31D-B337:L" ++
  "VT B338:LV B339-B353:LVT B354:LV B355-B36F:LVT B370:LV B371-B38B:LVT B38C:LV B38D-B3A7:LVT B3A8:" ++
  "LV B3A9-B3C3:LVT B3C4:LV B3C5-B3DF:LVT B3E0:LV B3E1-B3FB:LVT B3FC:LV B3FD-B417:LVT B418:LV B419-" ++
  "B433:LVT B434:LV B435-B44F:LVT B450:LV B451-B46B:LVT B46C:LV B46D-B487:LVT B488:LV B489-B4A3:LVT" ++
  " B4A4:LV B4A5-B4BF:LVT B4C0:LV B4C1-B4DB:LVT B4DC:LV B4DD-B4F7:LVT B4F8:LV B4F9-B513:LVT B514:LV" ++
  " B515-B52F:LVT B530:LV B531-B54B:LVT B54C:LV B54D-B567:LVT B568:LV B569-B583:LVT B584:LV B585-B5" ++
  "9F:LVT B5A0:LV B5A1-B5BB:LVT B5BC:LV B5BD-B5D7:LVT B5D8:LV B5D9-B5F3:LVT B5F4:LV B5F5-B60F:LVT B" ++
  "610:LV B611-B62B:LVT B62C:LV B62D-B647:LVT B648:LV B649-B663:LVT B664:LV B665-B67F:LVT B680:LV B" ++
  "681-B69B:LVT B69C:LV B69D-B6B7:LVT B6B8:LV B6B9-B6D3:LVT B6D4:LV B6D5-B6EF:LVT B6F0:LV B6F1-B70B" ++
  ":LVT B70C:LV B70D-B727:LVT B728:LV B729-B743:LVT B744:LV B745-B75F:LVT B760:LV B761-B77B:LVT B77" ++
  "C:LV B77D-B797:LVT B798:LV B799-B7B3:LVT B7B4:LV B7B5-B7CF:LVT B7D0:LV B7D1-B7EB:LVT B7EC:LV B7E" ++
  "D-B807:LVT B808:LV B809-B823:LVT B824:LV B825-B83F:LVT B840:LV B841-B85B:LVT B85C:LV B85D-B877:L" ++
  "VT B878:LV B879-B893:LVT B894:LV B895-B8AF:LVT B8B0:LV B8B1-B8CB:LVT B8CC:LV B8CD-B8E7:LVT B8E8:" ++
  "LV B8E9-B903:LVT B904:LV B905-B91F:LVT B920:LV B921-B93B:LVT B93C:LV B93D-B957:LVT B958:LV B959-" ++
  "B973:LVT B974:LV B975-B98F:LVT B990:LV B991-B9AB:LVT B9AC:LV B9AD-B9C7:LVT B9C8:LV B9C9-B9E3:LVT" ++
  " B9E4:LV B9E5-B9FF:LVT BA00:LV BA01-BA1B:LVT BA1C:LV BA1D-BA37:LVT BA38:LV BA39-BA53:LVT BA54:LV" ++
  " BA55-BA6F:LVT BA70:LV BA71-BA8B:LVT BA8C:LV BA8D-BAA7:LVT BAA8:LV BAA9-BAC3:LVT BAC4:LV BAC5-BA" ++
  "DF:LVT BAE0:LV BAE1-BAFB:LVT BAFC:LV BAFD-BB17:LVT BB18:LV BB19-BB33:LVT BB34:LV BB35-BB4F:LVT B" ++
  "B50:LV BB51-BB6B:LVT BB6C:LV BB6D-BB87:LVT BB88:LV BB89-BBA3:LVT BBA4:LV BBA5-BBBF:LVT BBC0:LV B" ++
  "BC1-BBDB:LVT BBDC:LV BBDD-BBF7:LVT BBF8:LV BBF9-BC13:LVT BC14:LV BC15-BC2F:LVT BC30:LV BC31-BC4B" ++
  ":LVT BC4C:LV BC4D-BC67:LVT BC68:LV BC69-BC83:LVT BC84:LV BC85-BC9F:LVT BCA0:LV BCA1-BCBB:LVT BCB" ++
  "C:LV BCBD-BCD7:LVT BCD8:LV BCD9-BCF3:LVT BCF4:LV BCF5-BD0F:LVT BD10:LV BD11-BD2B:LVT BD2C:LV BD2" ++
  "D-BD47:LVT BD48:LV BD49-BD63:LVT BD64:LV BD65-BD7F:LVT BD80:LV BD81-BD9B:LVT BD9C:LV BD9D-BDB7:L" ++
  "VT BDB8:LV BDB9-BDD3:LVT BDD4:LV BDD5-BDEF:LVT BDF0:LV BDF1-BE0B:LVT BE0C:LV BE0D-BE27:LVT BE28:" ++
  "LV BE29-BE43:LVT BE44:LV BE45-BE5F:LVT BE60:LV BE61-BE7B:LVT BE7C:LV BE7D-BE97:LVT BE98:LV BE99-" ++
  "BEB3:LVT BEB4:LV BEB5-BECF:LVT BED0:LV BED1-BEEB:LVT BEEC:LV BEED-BF07:LVT BF08:LV BF09-BF23:LVT" ++
  " BF24:LV BF25-BF3F:LVT BF40:LV BF41-BF5B:LVT BF5C:LV BF5D-BF77:LVT BF78:LV BF79-BF93:LVT BF94:LV" ++
  " BF95-BFAF:LVT BFB0:LV BFB1-BFCB:LVT BFCC:LV BFCD-BFE7:LVT BFE8:LV BFE9-C003:LVT C004:LV C005-C0" ++
  "1F:LVT C020:LV C021-C03B:LVT C03C:LV C03D-C057:LVT C058:LV C059-C073:LVT C074:LV C075-C08F:LVT C" ++
  "090:LV C091-C0AB:LVT C0AC:LV C0AD-C0C7:LVT C0C8:LV C0C9-C0E3:LVT C0E4:LV C0E5-C0FF:LVT C100:LV C" ++
  "101-C11B:LVT C11C:LV C11D-C137:LVT C138:LV C139-C153:LVT C154:LV C155-C16F:LVT C170:LV C171-C18B" ++
  ":LVT C18C:LV C18D-C1A7:LVT C1A8:LV C1A9-C1C3:LVT C1C4:LV C1C5-C1DF:LVT C1E0:LV C1E1-C1FB:LVT C1F" ++
  "C:LV C1FD-C217:LVT C218:LV C219-C233:LVT C234:LV C235-C24F:LVT C250:LV C251-C26B:LVT C26C:LV C26" ++
  "D-C287:LVT C288:LV C289-C2A3:LVT C2A4:LV C2A5-C2BF:LVT C2C0:LV C2C1-C2DB:LVT C2DC:LV C2DD-C2F7:L" ++
  "VT C2F8:LV C2F9-C313:LVT C314:LV C315-C32F:LVT C330:LV C331-C34B:LVT C34C:LV C34D-C367:LVT C368:" ++
  "LV C369-C383:LVT C384:LV C385-C39F:LVT C3A0:LV C3A1-C3BB:LVT C3BC:LV C3BD-C3D7:LVT C3D8:LV C3D9-" ++
  "C3F3:LVT C3F4:LV C3F5-C40F:LVT C410:LV C411-C42B:LVT C42C:LV C42D-C447:LVT C448:LV C449-C463:LVT" ++
  " C464:LV C465-C47F:LVT C480:LV C481-C49B:LVT C49C:LV C49D-C4B7:LVT C4B8:LV C4B9-C4D3:LVT C4D4:LV" ++
  " C4D5-C4EF:LVT C4F0:LV C4F1-C50B:LVT C50C:LV C50D-C527:LVT C528:LV C529-C543:LVT C544:LV C545-C5" ++
  "5F:LVT C560:LV C561-C57B:LVT C57C:LV C57D-C597:LVT C598:LV C599-C5B3:LVT C5B4:LV C5B5-C5CF:LVT C" ++
  "5D0:LV C5D1-C5EB:LVT C5EC:LV C5ED-C607:LVT C608:LV C609-C623:LVT C624:LV C625-C63F:LVT C640:LV C" ++
  "641-C65B:LVT C65C:LV C65D-C677:LVT C678:LV C679-C693:LVT C694:LV C695-C6AF:LVT C6B0:LV C6B1-C6CB" ++
  ":LVT C6CC:LV C6CD-C6E7:LVT C6E8:LV C6E9-C703:LVT C704:LV C705-C71F:LVT C720:LV C721-C73B:LVT C73" ++
  "C:LV C73D-C757:LVT C758:LV C759-C773:LVT C774:LV C775-C78F:LVT C790:LV C791-C7AB:LVT C7AC:LV C7A" ++
  "D-C7C7:LVT C7C8:LV C7C9-C7E3:LVT C7E4:LV C7E5-C7FF:LVT C800:LV C801-C81B:LVT C81C:LV C81D-C837:L" ++
  "VT C838:LV C839-C853:LVT C854:LV C855-C86F:LVT C870:LV C871-C88B:LVT C88C:LV C88D-C8A7:LVT C8A8:" ++
  "LV C8A9-C8C3:LVT C8C4:LV C8C5-C8DF:LVT C8E0:LV C8E1-C8FB:LVT C8FC:LV C8FD-C917:LVT C918:LV C919-" ++
  "C933:LVT C934:LV C935-C94F:LVT C950:LV C951-C96B:LVT C96C:LV C96D-C987:LVT C988:LV C989-C9A3:LVT" ++
  " C9A4:LV C9A5-C9BF:LVT C9C0:LV C9C1-C9DB:LVT C9DC:LV C9DD-C9F7:LVT C9F8:LV C9F9-CA13:LVT CA14:LV" ++
  " CA15-CA2F:LVT CA30:LV CA31-CA4B:LVT CA4C:LV CA4D-CA67:LVT CA68:LV CA69-CA83:LVT CA84:LV CA85-CA" ++
  "9F:LVT CAA0:LV CAA1-CABB:LVT CABC:LV CABD-CAD7:LVT CAD8:LV CAD9-CAF3:LVT CAF4:LV CAF5-CB0F:LVT C" ++
  "B10:LV CB11-CB2B:LVT CB2C:LV CB2D-CB47:LVT CB48:LV CB49-CB63:LVT CB64:LV CB65-CB7F:LVT CB80:LV C" ++
  "B81-CB9B:LVT CB9C:LV CB9D-CBB7:LVT CBB8:LV CBB9-CBD3:LVT CBD4:LV CBD5-CBEF:LVT CBF0:LV CBF1-CC0B" ++
  ":LVT CC0C:LV CC0D-CC27:LVT CC28:LV CC29-CC43:LVT CC44:LV CC45-CC5F:LVT CC60:LV CC61-CC7B:LVT CC7" ++
  "C:LV CC7D-CC97:LVT CC98:LV CC99-CCB3:LVT CCB4:LV CCB5-CCCF:LVT CCD0:LV CCD1-CCEB:LVT CCEC:LV CCE" ++
  "D-CD07:LVT CD08:LV CD09-CD23:LVT CD24:LV CD25-CD3F:LVT CD40:LV CD41-CD5B:LVT CD5C:LV CD5D-CD77:L" ++
  "VT CD78:LV CD79-CD93:LVT CD94:LV CD95-CDAF:LVT CDB0:LV CDB1-CDCB:LVT CDCC:LV CDCD-CDE7:LVT CDE8:" ++
  "LV CDE9-CE03:LVT CE04:LV CE05-CE1F:LVT CE20:LV CE21-CE3B:LVT CE3C:LV CE3D-CE57:LVT CE58:LV CE59-" ++
  "CE73:LVT CE74:LV CE75-CE8F:LVT CE90:LV CE91-CEAB:LVT CEAC:LV CEAD-CEC7:LVT CEC8:LV CEC9-CEE3:LVT" ++
  " CEE4:LV CEE5-CEFF:LVT CF00:LV CF01-CF1B:LVT CF1C:LV CF1D-CF37:LVT CF38:LV CF39-CF53:LVT CF54:LV" ++
  " CF55-CF6F:LVT CF70:LV CF71-CF8B:LVT CF8C:LV CF8D-CFA7:LVT CFA8:LV CFA9-CFC3:LVT CFC4:LV CFC5-CF" ++
  "DF:LVT CFE0:LV CFE1-CFFB:LVT CFFC:LV CFFD-D017:LVT D018:LV D019-D033:LVT D034:LV D035-D04F:LVT D" ++
  "050:LV D051-D06B:LVT D06C:LV D06D-D087:LVT D088:LV D089-D0A3:LVT D0A4:LV D0A5-D0BF:LVT D0C0:LV D" ++
  "0C1-D0DB:LVT D0DC:LV D0DD-D0F7:LVT D0F8:LV D0F9-D113:LVT D114:LV D115-D12F:LVT D130:LV D131-D14B" ++
  ":LVT D14C:LV D14D-D167:LVT D168:LV D169-D183:LVT D184:LV D185-D19F:LVT D1A0:LV D1A1-D1BB:LVT D1B" ++
  "C:LV D1BD-D1D7:LVT D1D8:LV D1D9-D1F3:LVT D1F4:LV D1F5-D20F:LVT D210:LV D211-D22B:LVT D22C:LV D22" ++
  "D-D247:LVT D248:LV D249-D263:LVT D264:LV D265-D27F:LVT D280:LV D281-D29B:LVT D29C:LV D29D-D2B7:L" ++
  "VT D2B8:LV D2B9-D2D3:LVT D2D4:LV D2D5-D2EF:LVT D2F0:LV D2F1-D30B:LVT D30C:LV D30D-D327:LVT D328:" ++
  "LV D329-D343:LVT D344:LV D345-D35F:LVT D360:LV D361-D37B:LVT D37C:LV D37D-D397:LVT D398:LV D399-" ++
  "D3B3:LVT D3B4:LV D3B5-D3CF:LVT D3D0:LV D3D1-D3EB:LVT D3EC:LV D3ED-D407:LVT D408:LV D409-D423:LVT" ++
  " D424:LV D425-D43F:LVT D440:LV D441-D45B:LVT D45C:LV D45D-D477:LVT D478:LV D479-D493:LVT D494:LV" ++
  " D495-D4AF:LVT D4B0:LV D4B1-D4CB:LVT D4CC:LV D4CD-D4E7:LVT D4E8:LV D4E9-D503:LVT D504:LV D505-D5" ++
  "1F:LVT D520:LV D521-D53B:LVT D53C:LV D53D-D557:LVT D558:LV D559-D573:LVT D574:LV D575-D58F:LVT D" ++
  "590:LV D591-D5AB:LVT D5AC:LV D5AD-D5C7:LVT D5C8:LV D5C9-D5E3:LVT D5E4:LV D5E5-D5FF:LVT D600:LV D" ++
  "601-D61B:LVT D61C:LV D61D-D637:LVT D638:LV D639-D653:LVT D654:LV D655-D66F:LVT D670:LV D671-D68B" ++
  ":LVT D68C:LV D68D-D6A7:LVT D6A8:LV D6A9-D6C3:LVT D6C4:LV D6C5-D6DF:LVT D6E0:LV D6E1-D6FB:LVT D6F" ++
  "C:LV D6FD-D717:LVT D718:LV D719-D733:LVT D734:LV D735-D74F:LVT D750:LV D751-D76B:LVT D76C:LV D76" ++
  "D-D787:LVT D788:LV D789-D7A3:LVT D7B0-D7C6:V D7CB-D7FB:T FB1E:Extend FE00-FE0F:Extend FE20-FE2F:" ++
  "Extend FEFF:Control FF9E-FF9F:Extend FFF0-FFFB:Control 101FD:Extend 102E0:Extend 10376-1037A:Ext" ++
  "end 10A01-10A03:Extend 10A05-10A06:Extend 10A0C-10A0F:Extend 10A38-10A3A:Extend 10A3F:Extend 10A" ++
  "E5-10AE6:Extend 10D24-10D27:Extend 10D69-10D6D:Extend 10EAB-10EAC:Extend 10EFC-10EFF:Extend 10F4" ++
  "6-10F50:Extend 10F82-10F85:Extend 11000:SpacingMark 11001:Extend 11002:SpacingMark 11038-11046:E" ++
  "xtend 11070:Extend 11073-11074:Extend 1107F-11081:Extend 11082:SpacingMark 110B0-110B2:SpacingMa" ++
  "rk 110B3-110B6:Extend 110B7-110B8:SpacingMark 110B9-110BA:Extend 110BD:Prepend 110C2:Extend 110C" ++
  "D:Prepend 11100-11102:Extend 11127-1112B:Extend 1112C:SpacingMark 1112D-11134:Extend 11145-11146" ++
  ":SpacingMark 11173:Extend 11180-11181:Extend 11182:SpacingMark 111B3-111B5:SpacingMark 111B6-111" ++
  "BE:Extend 111BF:SpacingMark 111C0:Extend 111C2-111C3:Prepend 111C9-111CC:Extend 111CE:SpacingMar" ++
  "k 111CF:Extend 1122C-1122E:SpacingMark 1122F-11231:Extend 11232-11233:SpacingMark 11234-11237:Ex" ++
  "tend 1123E:Extend 11241:Extend 112DF:Extend 112E0-112E2:SpacingMark 112E3-112EA:Extend 11300-113" ++
  "01:Extend 11302-11303:SpacingMark 1133B-1133C:Extend 1133E:Extend 1133F:SpacingMark 11340:Extend" ++
  " 11341-11344:SpacingMark 11347-11348:SpacingMark 1134B-1134C:SpacingMark 1134D:Extend 11357:Exte" ++
  "nd 11362-11363:SpacingMark 11366-1136C:Extend 11370-11374:Extend 113B8:Extend 113B9-113BA:Spacin" ++
  "gMark 113BB-113C0:Extend 113C2:Extend 113C5:Extend 113C7-113C9:Extend 113CA:SpacingMark 113CC-11" ++
  "3CD:SpacingMark 113CE-113D0:Extend 113D1:Prepend 113D2:Extend 113E1-113E2:Extend 11435-11437:Spa" ++
  "cingMark 11438-1143F:Extend 11440-11441:SpacingMark 11442-11444:Extend 11445:SpacingMark 11446:E" ++
  "xtend 1145E:Extend 114B0:Extend 114B1-114B2:SpacingMark 114B3-114B8:Extend 114B9:SpacingMark 114" ++
  "BA:Extend 114BB-114BC:SpacingMark 114BD:Extend 114BE:SpacingMark 114BF-114C0:Extend 114C1:Spacin" ++
  "gMark 114C2-114C3:Extend 115AF:Extend 115B0-115B1:SpacingMark 115B2-115B5:Extend 115B8-115BB:Spa" ++
  "cingMark 115BC-115BD:Extend 115BE:SpacingMark 115BF-115C0:Extend 115DC-115DD:Extend 11630-11632:" ++
  "SpacingMark 11633-1163A:Extend 1163B-1163C:SpacingMark 1163D:Extend 1163E:SpacingMark 1163F-1164" ++
  "0:Extend 116AB:Extend 116AC:SpacingMark 116AD:Extend 116AE-116AF:SpacingMark 116B0-116B7:Extend " ++
  "1171D:Extend 1171E:SpacingMark 1171F:Extend 11722-11725:Extend 11726:SpacingMark 11727-1172B:Ext" ++
  "end 1182C-1182E:SpacingMark 1182F-11837:Extend 11838:SpacingMark 11839-1183A:Extend 11930:Extend" ++
  " 11931-11935:SpacingMark 11937-11938:SpacingMark 1193B-1193E:Extend 1193F:Prepend 11940:SpacingM" ++
  "ark 11941:Prepend 11942:SpacingMark 11943:Extend 119D1-119D3:SpacingMark 119D4-119D7:Extend 119D" ++
  "A-119DB:Extend 119DC-119DF:SpacingMark 119E0:Extend 119E4:SpacingMark 11A01-11A0A:Extend 11A33-1" ++
  "1A38:Extend 11A39:SpacingMark 11A3A:Prepend 11A3B-11A3E:Extend 11A47:Extend 11A51-11A56:Extend 1" ++
  "1A57-11A58:SpacingMark 11A59-11A5B:Extend 11A84-11A89:Prepend 11A8A-11A96:Extend 11A97:SpacingMa" ++
  "rk 11A98-11A99:Extend 11C2F:SpacingMark 11C30-11C36:Extend 11C38-11C3D:Extend 11C3E:SpacingMark " ++
  "11C3F:Extend 11C92-11CA7:Extend 11CA9:SpacingMark 11CAA-11CB0:Extend 11CB1:SpacingMark 11CB2-11C" ++
  "B3:Extend 11CB4:SpacingMark 11CB5-11CB6:Extend 11D31-11D36:Extend 11D3A:Extend 11D3C-11D3D:Exten" ++
  "d 11D3F-11D45:Extend 11D46:Prepend 11D47:Extend 11D8A-11D8E:SpacingMark 11D90-11D91:Extend 11D93" ++
  "-11D94:SpacingMark 11D95:Extend 11D96:SpacingMark 11D97:Extend 11EF3-11EF4:Extend 11EF5-11EF6:Sp" ++
  "acingMark 11F00-11F01:Extend 11F02:Prepend 11F03:SpacingMark 11F34-11F35:SpacingMark 11F36-11F3A" ++
  ":Extend 11F3E-11F3F:SpacingMark 11F40-11F42:Extend 11F5A:Extend 13430-1343F:Control 13440:Extend" ++
  " 13447-13455:Extend 1611E-16129:Extend 1612A-1612C:SpacingMark 1612D-1612F:Extend 16AF0-16AF4:Ex" ++
  "tend 16B30-16B36:Extend 16D63:V 16D67-16D6A:V 16F4F:Extend 16F51-16F87:SpacingMark 16F8F-16F92:E" ++
  "xtend 16FE4:Extend 16FF0-16FF1:Extend 1BC9D-1BC9E:Extend 1BCA0-1BCA3:Control 1CF00-1CF2D:Extend " ++
  "1CF30-1CF46:Extend 1D165-1D169:Extend 1D16D-1D172:Extend 1D173-1D17A:Control 1D17B-1D182:Extend " ++
  "1D185-1D18B:Extend 1D1AA-1D1AD:Extend 1D242-1D244:Extend 1DA00-1DA36:Extend 1DA3B-1DA6C:Extend 1" ++
  "DA75:Extend 1DA84:Extend 1DA9B-1DA9F:Extend 1DAA1-1DAAF:Extend 1E000-1E006:Extend 1E008-1E018:Ex" ++
  "tend 1E01B-1E021:Extend 1E023-1E024:Extend 1E026-1E02A:Extend 1E08F:Extend 1E130-1E136:Extend 1E" ++
  "2AE:Extend 1E2EC-1E2EF:Extend 1E4EC-1E4EF:Extend 1E5EE-1E5EF:Extend 1E8D0-1E8D6:Extend 1E944-1E9" ++
  "4A:Extend 1F1E6-1F1FF:Regional_Indicator 1F3FB-1F3FF:Extend E0000-E001F:Control E0020-E007F:Exte" ++
  "nd E0080-E00FF:Control E0100-E01EF:Extend E01F0-E0FFF:Control ")

/-- The `Word_Break` values, by ranges. -/
def wordBreakTable : RangeTable String :=
  RangeTable.ofText some (
  "A:LF B-C:Newline D:CR 20:WSegSpace 22:Double_Quote 27:Single_Quote 2C:MidNum 2E:MidNumLet 30-39:" ++
  "Numeric 3A:MidLetter 3B:MidNum 41-5A:ALetter 5F:ExtendNumLet 61-7A:ALetter 85:Newline AA:ALetter" ++
  " AD:Format B5:ALetter B7:MidLetter BA:ALetter C0-D6:ALetter D8-F6:ALetter F8-2D7:ALetter 2DE-2FF" ++
  ":ALetter 300-36F:Extend 370-374:ALetter 376-377:ALetter 37A-37D:ALetter 37E:MidNum 37F:ALetter 3" ++
  "86:ALetter 387:MidLetter 388-38A:ALetter 38C:ALetter 38E-3A1:ALetter 3A3-3F5:ALetter 3F7-481:ALe" ++
  "tter 483-489:Extend 48A-52F:ALetter 531-556:ALetter 559-55C:ALetter 55E:ALetter 55F:MidLetter 56" ++
  "0-588:ALetter 589:MidNum 58A:ALetter 591-5BD:Extend 5BF:Extend 5C1-5C2:Extend 5C4-5C5:Extend 5C7" ++
  ":Extend 5D0-5EA:Hebrew_Letter 5EF-5F2:Hebrew_Letter 5F3:ALetter 5F4:MidLetter 600-605:Numeric 60" ++
  "C-60D:MidNum 610-61A:Extend 61C:Format 620-64A:ALetter 64B-65F:Extend 660-669:Numeric 66B:Numeri" ++
  "c 66C:MidNum 66E-66F:ALetter 670:Extend 671-6D3:ALetter 6D5:ALetter 6D6-6DC:Extend 6DD:Numeric 6" ++
  "DF-6E4:Extend 6E5-6E6:ALetter 6E7-6E8:Extend 6EA-6ED:Extend 6EE-6EF:ALetter 6F0-6F9:Numeric 6FA-" ++
  "6FC:ALetter 6FF:ALetter 70F-710:ALetter 711:Extend 712-72F:ALetter 730-74A:Extend 74D-7A5:ALette" ++
  "r 7A6-7B0:Extend 7B1:ALetter 7C0-7C9:Numeric 7CA-7EA:ALetter 7EB-7F3:Extend 7F4-7F5:ALetter 7F8:" ++
  "MidNum 7FA:ALetter 7FD:Extend 800-815:ALetter 816-819:Extend 81A:ALetter 81B-823:Extend 824:ALet" ++
  "ter 825-827:Extend 828:ALetter 829-82D:Extend 840-858:ALetter 859-85B:Extend 860-86A:ALetter 870" ++
  "-887:ALetter 889-88E:ALetter 890-891:Numeric 897-89F:Extend 8A0-8C9:ALetter 8CA-8E1:Extend 8E2:N" ++
  "umeric 8E3-903:Extend 904-939:ALetter 93A-93C:Extend 93D:ALetter 93E-94F:Extend 950:ALetter 951-" ++
  "957:Extend 958-961:ALetter 962-963:Extend 966-96F:Numeric 971-980:ALetter 981-983:Extend 985-98C" ++
  ":ALetter 98F-990:ALetter 993-9A8:ALetter 9AA-9B0:ALetter 9B2:ALetter 9B6-9B9:ALetter 9BC:Extend " ++
  "9BD:ALetter 9BE-9C4:Extend 9C7-9C8:Extend 9CB-9CD:Extend 9CE:ALetter 9D7:Extend 9DC-9DD:ALetter " ++
  "9DF-9E1:ALetter 9E2-9E3:Extend 9E6-9EF:Numeric 9F0-9F1:ALetter 9FC:ALetter 9FE:Extend A01-A03:Ex" ++
  "tend A05-A0A:ALetter A0F-A10:ALetter A13-A28:ALetter A2A-A30:ALetter A32-A33:ALetter A35-A36:ALe" ++
  "tter A38-A39:ALetter A3C:Extend A3E-A42:Extend A47-A48:Extend A4B-A4D:Extend A51:Extend A59-A5C:" ++
  "ALetter A5E:ALetter A66-A6F:Numeric A70-A71:Extend A72-A74:ALetter A75:Extend A81-A83:Extend A85" ++
  "-A8D:ALetter A8F-A91:ALetter A93-AA8:ALetter AAA-AB0:ALetter AB2-AB3:ALetter AB5-AB9:ALetter ABC" ++
  ":Extend ABD:ALetter ABE-AC5:Extend AC7-AC9:Extend ACB-ACD:Extend AD0:ALetter AE0-AE1:ALetter AE2" ++
  "-AE3:Extend AE6-AEF:Numeric AF9:ALetter AFA-AFF:Extend B01-B03:Extend B05-B0C:ALetter B0F-B10:AL" ++
  "etter B13-B28:ALetter B2A-B30:ALetter B32-B33:ALetter B35-B39:ALetter B3C:Extend B3D:ALetter B3E" ++
  "-B44:Extend B47-B48:Extend B4B-B4D:Extend B55-B57:Extend B5C-B5D:ALetter B5F-B61:ALetter B62-B63" ++
  ":Extend B66-B6F:Numeric B71:ALetter B82:Extend B83:ALetter B85-B8A:ALetter B8E-B90:ALetter B92-B" ++
  "95:ALetter B99-B9A:ALetter B9C:ALetter B9E-B9F:ALetter BA3-BA4:ALetter BA8-BAA:ALetter BAE-BB9:A" ++
  "Letter BBE-BC2:Extend BC6-BC8:Extend BCA-BCD:Extend BD0:ALetter BD7:Extend BE6-BEF:Numeric C00-C" ++
  "04:Extend C05-C0C:ALetter C0E-C10:ALetter C12-C28:ALetter C2A-C39:ALetter C3C:Extend C3D:ALetter" ++
  " C3E-C44:Extend C46-C48:Extend C4A-C4D:Extend C55-C56:Extend C58-C5A:ALetter C5D:ALetter C60-C61" ++
  ":ALetter C62-C63:Extend C66-C6F:Numeric C80:ALetter C81-C83:Extend C85-C8C:ALetter C8E-C90:ALett" ++
  "er C92-CA8:ALetter CAA-CB3:ALetter CB5-CB9:ALetter CBC:Extend CBD:ALetter CBE-CC4:Extend CC6-CC8" ++
  ":Extend CCA-CCD:Extend CD5-CD6:Extend CDD-CDE:ALetter CE0-CE1:ALetter CE2-CE3:Extend CE6-CEF:Num" ++
  "eric CF1-CF2:ALetter CF3:Extend D00-D03:Extend D04-D0C:ALetter D0E-D10:ALetter D12-D3A:ALetter D" ++
  "3B-D3C:Extend D3D:ALetter D3E-D44:Extend D46-D48:Extend D4A-D4D:Extend D4E:ALetter D54-D56:ALett" ++
  "er D57:Extend D5F-D61:ALetter D62-D63:Extend D66-D6F:Numeric D7A-D7F:ALetter D81-D83:Extend D85-" ++
  "D96:ALetter D9A-DB1:ALetter DB3-DBB:ALetter DBD:ALetter DC0-DC6:ALetter DCA:Extend DCF-DD4:Exten" ++
  "d DD6:Extend DD8-DDF:Extend DE6-DEF:Numeric DF2-DF3:Extend E31:Extend E34-E3A:Extend E47-E4E:Ext" ++
  "end E50-E59:Numeric EB1:Extend EB4-EBC:Extend EC8-ECE:Extend ED0-ED9:Numeric F00:ALetter F18-F19" ++
  ":Extend F20-F29:Numeric F35:Extend F37:Extend F39:Extend F3E-F3F:Extend F40-F47:ALetter F49-F6C:" ++
  "ALetter F71-F84:Extend F86-F87:Extend F88-F8C:ALetter F8D-F97:Extend F99-FBC:Extend FC6:Extend 1" ++
  "02B-103E:Extend 1040-1049:Numeric 1056-1059:Extend 105E-1060:Extend 1062-1064:Extend 1067-106D:E" ++
  "xtend 1071-1074:Extend 1082-108D:Extend 108F:Extend 1090-1099:Numeric 109A-109D:Extend 10A0-10C5" ++
  ":ALetter 10C7:ALetter 10CD:ALetter 10D0-10FA:ALetter 10FC-1248:ALetter 124A-124D:ALetter 1250-12" ++
  "56:ALetter 1258:ALetter 125A-125D:ALetter 1260-1288:ALetter 128A-128D:ALetter 1290-12B0:ALetter " ++
  "12B2-12B5:ALetter 12B8-12BE:ALetter 12C0:ALetter 12C2-12C5:ALetter 12C8-12D6:ALetter 12D8-1310:A" ++
  "Letter 1312-1315:ALetter 1318-135A:ALetter 135D-135F:Extend 1380-138F:ALetter 13A0-13F5:ALetter " ++
  "13F8-13FD:ALetter 1401-166C:ALetter 166F-167F:ALetter 1680:WSegSpace 1681-169A:ALetter 16A0-16EA" ++
  ":ALetter 16EE-16F8:ALetter 1700-1711:ALetter 1712-1715:Extend 171F-1731:ALetter 1732-1734:Extend" ++
  " 1740-1751:ALetter 1752-1753:Extend 1760-176C:ALetter 176E-1770:ALetter 1772-1773:Extend 17B4-17" ++
  "D3:Extend 17DD:Extend 17E0-17E9:Numeric 180B-180D:Extend 180E:Format 180F:Extend 1810-1819:Numer" ++
  "ic 1820-1878:ALetter 1880-1884:ALetter 1885-1886:Extend 1887-18A8:ALetter 18A9:Extend 18AA:ALett" ++
  "er 18B0-18F5:ALetter 1900-191E:ALetter 1920-192B:Extend 1930-193B:Extend 1946-194F:Numeric 19D0-" ++
  "19DA:Numeric 1A00-1A16:ALetter 1A17-1A1B:Extend 1A55-1A5E:Extend 1A60-1A7C:Extend 1A7F:Extend 1A" ++
  "80-1A89:Numeric 1A90-1A99:Numeric 1AB0-1ACE:Extend 1B00-1B04:Extend 1B05-1B33:ALetter 1B34-1B44:" ++
  "Extend 1B45-1B4C:ALetter 1B50-1B59:Numeric 1B6B-1B73:Extend 1B80-1B82:Extend 1B83-1BA0:ALetter 1" ++
  "BA1-1BAD:Extend 1BAE-1BAF:ALetter 1BB0-1BB9:Numeric 1BBA-1BE5:ALetter 1BE6-1BF3:Extend 1C00-1C23" ++
  ":ALetter 1C24-1C37:Extend 1C40-1C49:Numeric 1C4D-1C4F:ALetter 1C50-1C59:Numeric 1C5A-1C7D:ALette" ++
  "r 1C80-1C8A:ALetter 1C90-1CBA:ALetter 1CBD-1CBF:ALetter 1CD0-1CD2:Extend 1CD4-1CE8:Extend 1CE9-1" ++
  "CEC:ALetter 1CED:Extend 1CEE-1CF3:ALetter 1CF4:Extend 1CF5-1CF6:ALetter 1CF7-1CF9:Extend 1CFA:AL" ++
  "etter 1D00-1DBF:ALetter 1DC0-1DFF:Extend 1E00-1F15:ALetter 1F18-1F1D:ALetter 1F20-1F45:ALetter 1" ++
  "F48-1F4D:ALetter 1F50-1F57:ALetter 1F59:ALetter 1F5B:ALetter 1F5D:ALetter 1F5F-1F7D:ALetter 1F80" ++
  "-1FB4:ALetter 1FB6-1FBC:ALetter 1FBE:ALetter 1FC2-1FC4:ALetter 1FC6-1FCC:ALetter 1FD0-1FD3:ALett" ++
  "er 1FD6-1FDB:ALetter 1FE0-1FEC:ALetter 1FF2-1FF4:ALetter 1FF6-1FFC:ALetter 2000-2006:WSegSpace 2" ++
  "008-200A:WSegSpace 200C:Extend 200D:ZWJ 200E-200F:Format 2018-2019:MidNumLet 2024:MidNumLet 2027" ++
  ":MidLetter 2028-2029:Newline 202A-202E:Format 202F:ExtendNumLet 203F-2040:ExtendNumLet 2044:MidN" ++
  "um 2054:ExtendNumLet 205F:WSegSpace 2060-2064:Format 2066-206F:Format 2071:ALetter 207F:ALetter " ++
  "2090-209C:ALetter 20D0-20F0:Extend 2102:ALetter 2107:ALetter 210A-2113:ALetter 2115:ALetter 2119" ++
  "-211D:ALetter 2124:ALetter 2126:ALetter 2128:ALetter 212A-212D:ALetter 212F-2139:ALetter 213C-21" ++
  "3F:ALetter 2145-2149:ALetter 214E:ALetter 2160-2188:ALetter 24B6-24E9:ALetter 2C00-2CE4:ALetter " ++
  "2CEB-2CEE:ALetter 2CEF-2CF1:Extend 2CF2-2CF3:ALetter 2D00-2D25:ALetter 2D27:ALetter 2D2D:ALetter" ++
  " 2D30-2D67:ALetter 2D6F:ALetter 2D7F:Extend 2D80-2D96:ALetter 2DA0-2DA6:ALetter 2DA8-2DAE:ALette" ++
  "r 2DB0-2DB6:ALetter 2DB8-2DBE:ALetter 2DC0-2DC6:ALetter 2DC8-2DCE:ALetter 2DD0-2DD6:ALetter 2DD8" ++
  "-2DDE:ALetter 2DE0-2DFF:Extend 2E2F:ALetter 3000:WSegSpace 3005:ALetter 302A-302F:Extend 3031-30" ++
  "35:Katakana 303B-303C:ALetter 3099-309A:Extend 309B-309C:Katakana 30A0-30FA:Katakana 30FC-30FF:K" ++
  "atakana 3105-312F:ALetter 3131-318E:ALetter 31A0-31BF:ALetter 31F0-31FF:Katakana 32D0-32FE:Katak" ++
  "ana 3300-3357:Katakana A000-A48C:ALetter A4D0-A4FD:ALetter A500-A60C:ALetter A610-A61F:ALetter A" ++
  "620-A629:Numeric A62A-A62B:ALetter A640-A66E:ALetter A66F-A672:Extend A674-A67D:Extend A67F-A69D" ++
  ":ALetter A69E-A69F:Extend A6A0-A6EF:ALetter A6F0-A6F1:Extend A708-A7CD:ALetter A7D0-A7D1:ALetter" ++
  " A7D3:ALetter A7D5-A7DC:ALetter A7F2-A801:ALetter A802:Extend A803-A805:ALetter A806:Extend A807" ++
  "-A80A:ALetter A80B:Extend A80C-A822:ALetter A823-A827:Extend A82C:Extend A840-A873:ALetter A880-" ++
  "A881:Extend A882-A8B3:ALetter A8B4-A8C5:Extend A8D0-A8D9:Numeric A8E0-A8F1:Extend A8F2-A8F7:ALet" ++
  "ter A8FB:ALetter A8FD-A8FE:ALetter A8FF:Extend A900-A909:Numeric A90A-A925:ALetter A926-A92D:Ext" ++
  "end A930-A946:ALetter A947-A953:Extend A960-A97C:ALetter A980-A983:Extend A984-A9B2:ALetter A9B3" ++
  "-A9C0:Extend A9CF:ALetter A9D0-A9D9:Numeric A9E5:Extend A9F0-A9F9:Numeric AA00-AA28:ALetter AA29" ++
  "-AA36:Extend AA40-AA42:ALetter AA43:Extend AA44-AA4B:ALetter AA4C-AA4D:Extend AA50-AA59:Numeric " ++
  "AA7B-AA7D:Extend AAB0:Extend AAB2-AAB4:Extend AAB7-AAB8:Extend AABE-AABF:Extend AAC1:Extend AAE0" ++
  "-AAEA:ALetter AAEB-AAEF:Extend AAF2-AAF4:ALetter AAF5-AAF6:Extend AB01-AB06:ALetter AB09-AB0E:AL" ++
  "etter AB11-AB16:ALetter AB20-AB26:ALetter AB28-AB2E:ALetter AB30-AB69:ALetter AB70-ABE2:ALetter " ++
  "ABE3-ABEA:Extend ABEC-ABED:Extend ABF0-ABF9:Numeric AC00-D7A3:ALetter D7B0-D7C6:ALetter D7CB-D7F" ++
  "B:ALetter FB00-FB06:ALetter FB13-FB17:ALetter FB1D:Hebrew_Letter FB1E:Extend FB1F-FB28:Hebrew_Le" ++
  "tter FB2A-FB36:Hebrew_Letter FB38-FB3C:Hebrew_Letter FB3E:Hebrew_Letter FB40-FB41:Hebrew_Letter " ++
  "FB43-FB44:Hebrew_Letter FB46-FB4F:Hebrew_Letter FB50-FBB1:ALetter FBD3-FD3D:ALetter FD50-FD8F:AL" ++
  "etter FD92-FDC7:ALetter FDF0-FDFB:ALetter FE00-FE0F:Extend FE13:MidLetter FE20-FE2F:Extend FE33-" ++
  "FE34:ExtendNumLet FE4D-FE4F:ExtendNumLet FE50:MidNum FE52:MidNumLet FE54:MidNum FE55:MidLetter F" ++
  "E70-FE74:ALetter FE76-FEFC:ALetter FEFF:Format FF07:MidNumLet FF0C:MidNum FF0E:MidNumLet FF10-FF" ++
  "19:Numeric FF1A:MidLetter FF1B:MidNum FF21-FF3A:ALetter FF3F:ExtendNumLet FF41-FF5A:ALetter FF66" ++
  "-FF9D:Katakana FF9E-FF9F:Extend FFA0-FFBE:ALetter FFC2-FFC7:ALetter FFCA-FFCF:ALetter FFD2-FFD7:" ++
  "ALetter FFDA-FFDC:ALetter FFF9-FFFB:Format 10000-1000B:ALetter 1000D-10026:ALetter 10028-1003A:A" ++
  "Letter 1003C-1003D:ALetter 1003F-1004D:ALetter 10050-1005D:ALetter 10080-100FA:ALetter 10140-101" ++
  "74:ALetter 101FD:Extend 10280-1029C:ALetter 102A0-102D0:ALetter 102E0:Extend 10300-1031F:ALetter" ++
  " 1032D-1034A:ALetter 10350-10375:ALetter 10376-1037A:Extend 10380-1039D:ALetter 103A0-103C3:ALet" ++
  "ter 103C8-103CF:ALetter 103D1-103D5:ALetter 10400-1049D:ALetter 104A0-104A9:Numeric 104B0-104D3:" ++
  "ALetter 104D8-104FB:ALetter 10500-10527:ALetter 10530-10563:ALetter 10570-1057A:ALetter 1057C-10" ++
  "58A:ALetter 1058C-10592:ALetter 10594-10595:ALetter 10597-105A1:ALetter 105A3-105B1:ALetter 105B" ++
  "3-105B9:ALetter 105BB-105BC:ALetter 105C0-105F3:ALetter 10600-10736:ALetter 10740-10755:ALetter " ++
  "10760-10767:ALetter 10780-10785:ALetter 10787-107B0:ALetter 107B2-107BA:ALetter 10800-10805:ALet" ++
  "ter 10808:ALetter 1080A-10835:ALetter 10837-10838:ALetter 1083C:ALetter 1083F-10855:ALetter 1086" ++
  "0-10876:ALetter 10880-1089E:ALetter 108E0-108F2:ALetter 108F4-108F5:ALetter 10900-10915:ALetter " ++
  "10920-10939:ALetter 10980-109B7:ALetter 109BE-109BF:ALetter 10A00:ALetter 10A01-10A03:Extend 10A" ++
  "05-10A06:Extend 10A0C-10A0F:Extend 10A10-10A13:ALetter 10A15-10A17:ALetter 10A19-10A35:ALetter 1" ++
  "0A38-10A3A:Extend 10A3F:Extend 10A60-10A7C:ALetter 10A80-10A9C:ALetter 10AC0-10AC7:ALetter 10AC9" ++
  "-10AE4:ALetter 10AE5-10AE6:Extend 10B00-10B35:ALetter 10B40-10B55:ALetter 10B60-10B72:ALetter 10" ++
  "B80-10B91:ALetter 10C00-10C48:ALetter 10C80-10CB2:ALetter 10CC0-10CF2:ALetter 10D00-10D23:ALette" ++
  "r 10D24-10D27:Extend 10D30-10D39:Numeric 10D40-10D49:Numeric 10D4A-10D65:ALetter 10D69-10D6D:Ext" ++
  "end 10D6F-10D85:ALetter 10E80-10EA9:ALetter 10EAB-10EAC:Extend 10EB0-10EB1:ALetter 10EC2-10EC4:A" ++
  "Letter 10EFC-10EFF:Extend 10F00-10F1C:ALetter 10F27:ALetter 10F30-10F45:ALetter 10F46-10F50:Exte" ++
  "nd 10F70-10F81:ALetter 10F82-10F85:Extend 10FB0-10FC4:ALetter 10FE0-10FF6:ALetter 11000-11002:Ex" ++
  "tend 11003-11037:ALetter 11038-11046:Extend 11066-1106F:Numeric 11070:Extend 11071-11072:ALetter" ++
  " 11073-11074:Extend 11075:ALetter 1107F-11082:Extend 11083-110AF:ALetter 110B0-110BA:Extend 110B" ++
  "D:Numeric 110C2:Extend 110CD:Numeric 110D0-110E8:ALetter 110F0-110F9:Numeric 11100-11102:Extend " ++
  "11103-11126:ALetter 11127-11134:Extend 11136-1113F:Numeric 11144:ALetter 11145-11146:Extend 1114" ++
  "7:ALetter 11150-11172:ALetter 11173:Extend 11176:ALetter 11180-11182:Extend 11183-111B2:ALetter " ++
  "111B3-111C0:Extend 111C1-111C4:ALetter 111C9-111CC:Extend 111CE-111CF:Extend 111D0-111D9:Numeric" ++
  " 111DA:ALetter 111DC:ALetter 11200-11211:ALetter 11213-1122B:ALetter 1122C-11237:Extend 1123E:Ex" ++
  "tend 1123F-11240:ALetter 11241:Extend 11280-11286:ALetter 11288:ALetter 1128A-1128D:ALetter 1128" ++
  "F-1129D:ALetter 1129F-112A8:ALetter 112B0-112DE:ALetter 112DF-112EA:Extend 112F0-112F9:Numeric 1" ++
  "1300-11303:Extend 11305-1130C:ALetter 1130F-11310:ALetter 11313-11328:ALetter 1132A-11330:ALette" ++
  "r 11332-11333:ALetter 11335-11339:ALetter 1133B-1133C:Extend 1133D:ALetter 1133E-11344:Extend 11" ++
  "347-11348:Extend 1134B-1134D:Extend 11350:ALetter 11357:Extend 1135D-11361:ALetter 11362-11363:E" ++
  "xtend 11366-1136C:Extend 11370-11374:Extend 11380-11389:ALetter 1138B:ALetter 1138E:ALetter 1139" ++
  "0-113B5:ALetter 113B7:ALetter 113B8-113C0:Extend 113C2:Extend 113C5:Extend 113C7-113CA:Extend 11" ++
  "3CC-113D0:Extend 113D1:ALetter 113D2:Extend 113D3:ALetter 113E1-113E2:Extend 11400-11434:ALetter" ++
  " 11435-11446:Extend 11447-1144A:ALetter 11450-11459:Numeric 1145E:Extend 1145F-11461:ALetter 114" ++
  "80-114AF:ALetter 114B0-114C3:Extend 114C4-114C5:ALetter 114C7:ALetter 114D0-114D9:Numeric 11580-" ++
  "115AE:ALetter 115AF-115B5:Extend 115B8-115C0:Extend 115D8-115DB:ALetter 115DC-115DD:Extend 11600" ++
  "-1162F:ALetter 11630-11640:Extend 11644:ALetter 11650-11659:Numeric 11680-116AA:ALetter 116AB-11" ++
  "6B7:Extend 116B8:ALetter 116C0-116C9:Numeric 116D0-116E3:Numeric 1171D-1172B:Extend 11730-11739:" ++
  "Numeric 11800-1182B:ALetter 1182C-1183A:Extend 118A0-118DF:ALetter 118E0-118E9:Numeric 118FF-119" ++
  "06:ALetter 11909:ALetter 1190C-11913:ALetter 11915-11916:ALetter 11918-1192F:ALetter 11930-11935" ++
  ":Extend 11937-11938:Extend 1193B-1193E:Extend 1193F:ALetter 11940:Extend 11941:ALetter 11942-119" ++
  "43:Extend 11950-11959:Numeric 119A0-119A7:ALetter 119AA-119D0:ALetter 119D1-119D7:Extend 119DA-1" ++
  "19E0:Extend 119E1:ALetter 119E3:ALetter 119E4:Extend 11A00:ALetter 11A01-11A0A:Extend 11A0B-11A3" ++
  "2:ALetter 11A33-11A39:Extend 11A3A:ALetter 11A3B-11A3E:Extend 11A47:Extend 11A50:ALetter 11A51-1" ++
  "1A5B:Extend 11A5C-11A89:ALetter 11A8A-11A99:Extend 11A9D:ALetter 11AB0-11AF8:ALetter 11BC0-11BE0" ++
  ":ALetter 11BF0-11BF9:Numeric 11C00-11C08:ALetter 11C0A-11C2E:ALetter 11C2F-11C36:Extend 11C38-11" ++
  "C3F:Extend 11C40:ALetter 11C50-11C59:Numeric 11C72-11C8F:ALetter 11C92-11CA7:Extend 11CA9-11CB6:" ++
  "Extend 11D00-11D06:ALetter 11D08-11D09:ALetter 11D0B-11D30:ALetter 11D31-11D36:Extend 11D3A:Exte" ++
  "nd 11D3C-11D3D:Extend 11D3F-11D45:Extend 11D46:ALetter 11D47:Extend 11D50-11D59:Numeric 11D60-11" ++
  "D65:ALetter 11D67-11D68:ALetter 11D6A-11D89:ALetter 11D8A-11D8E:Extend 11D90-11D91:Extend 11D93-" ++
  "11D97:Extend 11D98:ALetter 11DA0-11DA9:Numeric 11EE0-11EF2:ALetter 11EF3-11EF6:Extend 11F00-11F0" ++
  "1:Extend 11F02:ALetter 11F03:Extend 11F04-11F10:ALetter 11F12-11F33:ALetter 11F34-11F3A:Extend 1" ++
  "1F3E-11F42:Extend 11F50-11F59:Numeric 11F5A:Extend 11FB0:ALetter 12000-12399:ALetter 12400-1246E" ++
  ":ALetter 12480-12543:ALetter 12F90-12FF0:ALetter 13000-1342F:ALetter 13430-1343F:Format 13440:Ex" ++
  "tend 13441-13446:ALetter 13447-13455:Extend 13460-143FA:ALetter 14400-14646:ALetter 16100-1611D:" ++
  "ALetter 1611E-1612F:Extend 16130-16139:Numeric 16800-16A38:ALetter 16A40-16A5E:ALetter 16A60-16A" ++
  "69:Numeric 16A70-16ABE:ALetter 16AC0-16AC9:Numeric 16AD0-16AED:ALetter 16AF0-16AF4:Extend 16B00-" ++
  "16B2F:ALetter 16B30-16B36:Extend 16B40-16B43:ALetter 16B50-16B59:Numeric 16B63-16B77:ALetter 16B" ++
  "7D-16B8F:ALetter 16D40-16D6C:ALetter 16D70-16D79:Numeric 16E40-16E7F:ALetter 16F00-16F4A:ALetter" ++
  " 16F4F:Extend 16F50:ALetter 16F51-16F87:Extend 16F8F-16F92:Extend 16F93-16F9F:ALetter 16FE0-16FE" ++
  "1:ALetter 16FE3:ALetter 16FE4:Extend 16FF0-16FF1:Extend 1AFF0-1AFF3:Katakana 1AFF5-1AFFB:Katakan" ++
  "a 1AFFD-1AFFE:Katakana 1B000:Katakana 1B120-1B122:Katakana 1B155:Katakana 1B164-1B167:Katakana 1" ++
  "BC00-1BC6A:ALetter 1BC70-1BC7C:ALetter 1BC80-1BC88:ALetter 1BC90-1BC99:ALetter 1BC9D-1BC9E:Exten" ++
  "d 1BCA0-1BCA3:Format 1CCF0-1CCF9:Numeric 1CF00-1CF2D:Extend 1CF30-1CF46:Extend 1D165-1D169:Exten" ++
  "d 1D16D-1D172:Extend 1D173-1D17A:Format 1D17B-1D182:Extend 1D185-1D18B:Extend 1D1AA-1D1AD:Extend" ++
  " 1D242-1D244:Extend 1D400-1D454:ALetter 1D456-1D49C:ALetter 1D49E-1D49F:ALetter 1D4A2:ALetter 1D" ++
  "4A5-1D4A6:ALetter 1D4A9-1D4AC:ALetter 1D4AE-1D4B9:ALetter 1D4BB:ALetter 1D4BD-1D4C3:ALetter 1D4C" ++
  "5-1D505:ALetter 1D507-1D50A:ALetter 1D50D-1D514:ALetter 1D516-1D51C:ALetter 1D51E-1D539:ALetter " ++
  "1D53B-1D53E:ALetter 1D540-1D544:ALetter 1D546:ALetter 1D54A-1D550:ALetter 1D552-1D6A5:ALetter 1D" ++
  "6A8-1D6C0:ALetter 1D6C2-1D6DA:ALetter 1D6DC-1D6FA:ALetter 1D6FC-1D714:ALetter 1D716-1D734:ALette" ++
  "r 1D736-1D74E:ALetter 1D750-1D76E:ALetter 1D770-1D788:ALetter 1D78A-1D7A8:ALetter 1D7AA-1D7C2:AL" ++
  "etter 1D7C4-1D7CB:ALetter 1D7CE-1D7FF:Numeric 1DA00-1DA36:Extend 1DA3B-1DA6C:Extend 1DA75:Extend" ++
  " 1DA84:Extend 1DA9B-1DA9F:Extend 1DAA1-1DAAF:Extend 1DF00-1DF1E:ALetter 1DF25-1DF2A:ALetter 1E00" ++
  "0-1E006:Extend 1E008-1E018:Extend 1E01B-1E021:Extend 1E023-1E024:Extend 1E026-1E02A:Extend 1E030" ++
  "-1E06D:ALetter 1E08F:Extend 1E100-1E12C:ALetter 1E130-1E136:Extend 1E137-1E13D:ALetter 1E140-1E1" ++
  "49:Numeric 1E14E:ALetter 1E290-1E2AD:ALetter 1E2AE:Extend 1E2C0-1E2EB:ALetter 1E2EC-1E2EF:Extend" ++
  " 1E2F0-1E2F9:Numeric 1E4D0-1E4EB:ALetter 1E4EC-1E4EF:Extend 1E4F0-1E4F9:Numeric 1E5D0-1E5ED:ALet" ++
  "ter 1E5EE-1E5EF:Extend 1E5F0:ALetter 1E5F1-1E5FA:Numeric 1E7E0-1E7E6:ALetter 1E7E8-1E7EB:ALetter" ++
  " 1E7ED-1E7EE:ALetter 1E7F0-1E7FE:ALetter 1E800-1E8C4:ALetter 1E8D0-1E8D6:Extend 1E900-1E943:ALet" ++
  "ter 1E944-1E94A:Extend 1E94B:ALetter 1E950-1E959:Numeric 1EE00-1EE03:ALetter 1EE05-1EE1F:ALetter" ++
  " 1EE21-1EE22:ALetter 1EE24:ALetter 1EE27:ALetter 1EE29-1EE32:ALetter 1EE34-1EE37:ALetter 1EE39:A" ++
  "Letter 1EE3B:ALetter 1EE42:ALetter 1EE47:ALetter 1EE49:ALetter 1EE4B:ALetter 1EE4D-1EE4F:ALetter" ++
  " 1EE51-1EE52:ALetter 1EE54:ALetter 1EE57:ALetter 1EE59:ALetter 1EE5B:ALetter 1EE5D:ALetter 1EE5F" ++
  ":ALetter 1EE61-1EE62:ALetter 1EE64:ALetter 1EE67-1EE6A:ALetter 1EE6C-1EE72:ALetter 1EE74-1EE77:A" ++
  "Letter 1EE79-1EE7C:ALetter 1EE7E:ALetter 1EE80-1EE89:ALetter 1EE8B-1EE9B:ALetter 1EEA1-1EEA3:ALe" ++
  "tter 1EEA5-1EEA9:ALetter 1EEAB-1EEBB:ALetter 1F130-1F149:ALetter 1F150-1F169:ALetter 1F170-1F189" ++
  ":ALetter 1F1E6-1F1FF:Regional_Indicator 1F3FB-1F3FF:Extend 1FBF0-1FBF9:Numeric E0001:Format E002" ++
  "0-E007F:Extend E0100-E01EF:Extend ")

/-- The `Sentence_Break` values, by ranges. -/
def sentenceBreakTable : RangeTable String :=
  RangeTable.ofText some (
  "9:Sp A:LF B-C:Sp D:CR 20:Sp 21:STerm 22:Close 27-29:Close 2C-2D:SContinue 2E:ATerm 30-39:Numeric" ++
  " 3A-3B:SContinue 3F:STerm 41-5A:Upper 5B:Close 5D:Close 61-7A:Lower 7B:Close 7D:Close 85:Sep A0:" ++
  "Sp AA:Lower AB:Close AD:Format B5:Lower BA:Lower BB:Close C0-D6:Upper D8-DE:Upper DF-F6:Lower F8" ++
  "-FF:Lower 100:Upper 101:Lower 102:Upper 103:Lower 104:Upper 105:Lower 106:Upper 107:Lower 108:Up" ++
  "per 109:Lower 10A:Upper 10B:Lower 10C:Upper 10D:Lower 10E:Upper 10F:Lower 110:Upper 111:Lower 11" ++
  "2:Upper 113:Lower 114:Upper 115:Lower 116:Upper 117:Lower 118:Upper 119:Lower 11A:Upper 11B:Lowe" ++
  "r 11C:Upper 11D:Lower 11E:Upper 11F:Lower 120:Upper 121:Lower 122:Upper 123:Lower 124:Upper 125:" ++
  "Lower 126:Upper 127:Lower 128:Upper 129:Lower 12A:Upper 12B:Lower 12C:Upper 12D:Lower 12E:Upper " ++
  "12F:Lower 130:Upper 131:Lower 132:Upper 133:Lower 134:Upper 135:Lower 136:Upper 137-138:Lower 13" ++
  "9:Upper 13A:Lower 13B:Upper 13C:Lower 13D:Upper 13E:Lower 13F:Upper 140:Lower 141:Upper 142:Lowe" ++
  "r 143:Upper 144:Lower 145:Upper 146:Lower 147:Upper 148-149:Lower 14A:Upper 14B:Lower 14C:Upper " ++
  "14D:Lower 14E:Upper 14F:Lower 150:Upper 151:Lower 152:Upper 153:Lower 154:Upper 155:Lower 156:Up" ++
  "per 157:Lower 158:Upper 159:Lower 15A:Upper 15B:Lower 15C:Upper 15D:Lower 15E:Upper 15F:Lower 16" ++
  "0:Upper 161:Lower 162:Upper 163:Lower 164:Upper 165:Lower 166:Upper 167:Lower 168:Upper 169:Lowe" ++
  "r 16A:Upper 16B:Lower 16C:Upper 16D:Lower 16E:Upper 16F:Lower 170:Upper 171:Lower 172:Upper 173:" ++
  "Lower 174:Upper 175:Lower 176:Upper 177:Lower 178-179:Upper 17A:Lower 17B:Upper 17C:Lower 17D:Up" ++
  "per 17E-180:Lower 181-182:Upper 183:Lower 184:Upper 185:Lower 186-187:Upper 188:Lower 189-18B:Up" ++
  "per 18C-18D:Lower 18E-191:Upper 192:Lower 193-194:Upper 195:Lower 196-198:Upper 199-19B:Lower 19" ++
  "C-19D:Upper 19E:Lower 19F-1A0:Upper 1A1:Lower 1A2:Upper 1A3:Lower 1A4:Upper 1A5:Lower 1A6-1A7:Up" ++
  "per 1A8:Lower 1A9:Upper 1AA-1AB:Lower 1AC:Upper 1AD:Lower 1AE-1AF:Upper 1B0:Lower 1B1-1B3:Upper " ++
  "1B4:Lower 1B5:Upper 1B6:Lower 1B7-1B8:Upper 1B9-1BA:Lower 1BB:OLetter 1BC:Upper 1BD-1BF:Lower 1C" ++
  "0-1C3:OLetter 1C4-1C5:Upper 1C6:Lower 1C7-1C8:Upper 1C9:Lower 1CA-1CB:Upper 1CC:Lower 1CD:Upper " ++
  "1CE:Lower 1CF:Upper 1D0:Lower 1D1:Upper 1D2:Lower 1D3:Upper 1D4:Lower 1D5:Upper 1D6:Lower 1D7:Up" ++
  "per 1D8:Lower 1D9:Upper 1DA:Lower 1DB:Upper 1DC-1DD:Lower 1DE:Upper 1DF:Lower 1E0:Upper 1E1:Lowe" ++
  "r 1E2:Upper 1E3:Lower 1E4:Upper 1E5:Lower 1E6:Upper 1E7:Lower 1E8:Upper 1E9:Lower 1EA:Upper 1EB:" ++
  "Lower 1EC:Upper 1ED:Lower 1EE:Upper 1EF-1F0:Lower 1F1-1F2:Upper 1F3:Lower 1F4:Upper 1F5:Lower 1F" ++
  "6-1F8:Upper 1F9:Lower 1FA:Upper 1FB:Lower 1FC:Upper 1FD:Lower 1FE:Upper 1FF:Lower 200:Upper 201:" ++
  "Lower 202:Upper 203:Lower 204:Upper 205:Lower 206:Upper 207:Lower 208:Upper 209:Lower 20A:Upper " ++
  "20B:Lower 20C:Upper 20D:Lower 20E:Upper 20F:Lower 210:Upper 211:Lower 212:Upper 213:Lower 214:Up" ++
  "per 215:Lower 216:Upper 217:Lower 218:Upper 219:Lower 21A:Upper 21B:Lower 21C:Upper 21D:Lower 21" ++
  "E:Upper 21F:Lower 220:Upper 221:Lower 222:Upper 223:Lower 224:Upper 225:Lower 226:Upper 227:Lowe" ++
  "r 228:Upper 229:Lower 22A:Upper 22B:Lower 22C:Upper 22D:Lower 22E:Upper 22F:Lower 230:Upper 231:" ++
  "Lower 232:Upper 233-239:Lower 23A-23B:Upper 23C:Lower 23D-23E:Upper 23F-240:Lower 241:Upper 242:" ++
  "Lower 243-246:Upper 247:Lower 248:Upper 249:Lower 24A:Upper 24B:Lower 24C:Upper 24D:Lower 24E:Up" ++
  "per 24F-293:Lower 294:OLetter 295-2B8:Lower 2B9-2BF:OLetter 2C0-2C1:Lower 2C6-2D1:OLetter 2E0-2E" ++
  "4:Lower 2EC:OLetter 2EE:OLetter 300-36F:Extend 370:Upper 371:Lower 372:Upper 373:Lower 374:OLett" ++
  "er 376:Upper 377:Lower 37A-37D:Lower 37E:SContinue 37F:Upper 386:Upper 388-38A:Upper 38C:Upper 3" ++
  "8E-38F:Upper 390:Lower 391-3A1:Upper 3A3-3AB:Upper 3AC-3CE:Lower 3CF:Upper 3D0-3D1:Lower 3D2-3D4" ++
  ":Upper 3D5-3D7:Lower 3D8:Upper 3D9:Lower 3DA:Upper 3DB:Lower 3DC:Upper 3DD:Lower 3DE:Upper 3DF:L" ++
  "ower 3E0:Upper 3E1:Lower 3E2:Upper 3E3:Lower 3E4:Upper 3E5:Lower 3E6:Upper 3E7:Lower 3E8:Upper 3" ++
  "E9:Lower 3EA:Upper 3EB:Lower 3EC:Upper 3ED:Lower 3EE:Upper 3EF-3F3:Lower 3F4:Upper 3F5:Lower 3F7" ++
  ":Upper 3F8:Lower 3F9-3FA:Upper 3FB-3FC:Lower 3FD-42F:Upper 430-45F:Lower 460:Upper 461:Lower 462" ++
  ":Upper 463:Lower 464:Upper 465:Lower 466:Upper 467:Lower 468:Upper 469:Lower 46A:Upper 46B:Lower" ++
  " 46C:Upper 46D:Lower 46E:Upper 46F:Lower 470:Upper 471:Lower 472:Upper 473:Lower 474:Upper 475:L" ++
  "ower 476:Upper 477:Lower 478:Upper 479:Lower 47A:Upper 47B:Lower 47C:Upper 47D:Lower 47E:Upper 4" ++
  "7F:Lower 480:Upper 481:Lower 483-489:Extend 48A:Upper 48B:Lower 48C:Upper 48D:Lower 48E:Upper 48" ++
  "F:Lower 490:Upper 491:Lower 492:Upper 493:Lower 494:Upper 495:Lower 496:Upper 497:Lower 498:Uppe" ++
  "r 499:Lower 49A:Upper 49B:Lower 49C:Upper 49D:Lower 49E:Upper 49F:Lower 4A0:Upper 4A1:Lower 4A2:" ++
  "Upper 4A3:Lower 4A4:Upper 4A5:Lower 4A6:Upper 4A7:Lower 4A8:Upper 4A9:Lower 4AA:Upper 4AB:Lower " ++
  "4AC:Upper 4AD:Lower 4AE:Upper 4AF:Lower 4B0:Upper 4B1:Lower 4B2:Upper 4B3:Lower 4B4:Upper 4B5:Lo" ++
  "wer 4B6:Upper 4B7:Lower 4B8:Upper 4B9:Lower 4BA:Upper 4BB:Lower 4BC:Upper 4BD:Lower 4BE:Upper 4B" ++
  "F:Lower 4C0-4C1:Upper 4C2:Lower 4C3:Upper 4C4:Lower 4C5:Upper 4C6:Lower 4C7:Upper 4C8:Lower 4C9:" ++
  "Upper 4CA:Lower 4CB:Upper 4CC:Lower 4CD:Upper 4CE-4CF:Lower 4D0:Upper 4D1:Lower 4D2:Upper 4D3:Lo" ++
  "wer 4D4:Upper 4D5:Lower 4D6:Upper 4D7:Lower 4D8:Upper 4D9:Lower 4DA:Upper 4DB:Lower 4DC:Upper 4D" ++
  "D:Lower 4DE:Upper 4DF:Lower 4E0:Upper 4E1:Lower 4E2:Upper 4E3:Lower 4E4:Upper 4E5:Lower 4E6:Uppe" ++
  "r 4E7:Lower 4E8:Upper 4E9:Lower 4EA:Upper 4EB:Lower 4EC:Upper 4ED:Lower 4EE:Upper 4EF:Lower 4F0:" ++
  "Upper 4F1:Lower 4F2:Upper 4F3:Lower 4F4:Upper 4F5:Lower 4F6:Upper 4F7:Lower 4F8:Upper 4F9:Lower " ++
  "4FA:Upper 4FB:Lower 4FC:Upper 4FD:Lower 4FE:Upper 4FF:Lower 500:Upper 501:Lower 502:Upper 503:Lo" ++
  "wer 504:Upper 505:Lower 506:Upper 507:Lower 508:Upper 509:Lower 50A:Upper 50B:Lower 50C:Upper 50" ++
  "D:Lower 50E:Upper 50F:Lower 510:Upper 511:Lower 512:Upper 513:Lower 514:Upper 515:Lower 516:Uppe" ++
  "r 517:Lower 518:Upper 519:Lower 51A:Upper 51B:Lower 51C:Upper 51D:Lower 51E:Upper 51F:Lower 520:" ++
  "Upper 521:Lower 522:Upper 523:Lower 524:Upper 525:Lower 526:Upper 527:Lower 528:Upper 529:Lower " ++
  "52A:Upper 52B:Lower 52C:Upper 52D:Lower 52E:Upper 52F:Lower 531-556:Upper 559:OLetter 55D:SConti" ++
  "nue 560-588:Lower 589:STerm 591-5BD:Extend 5BF:Extend 5C1-5C2:Extend 5C4-5C5:Extend 5C7:Extend 5" ++
  "D0-5EA:OLetter 5EF-5F3:OLetter 600-605:Numeric 60C-60D:SContinue 610-61A:Extend 61C:Format 61D-6" ++
  "1F:STerm 620-64A:OLetter 64B-65F:Extend 660-669:Numeric 66B-66C:Numeric 66E-66F:OLetter 670:Exte" ++
  "nd 671-6D3:OLetter 6D4:STerm 6D5:OLetter 6D6-6DC:Extend 6DD:Numeric 6DF-6E4:Extend 6E5-6E6:OLett" ++
  "er 6E7-6E8:Extend 6EA-6ED:Extend 6EE-6EF:OLetter 6F0-6F9:Numeric 6FA-6FC:OLetter 6FF:OLetter 700" ++
  "-702:STerm 70F:Format 710:OLetter 711:Extend 712-72F:OLetter 730-74A:Extend 74D-7A5:OLetter 7A6-" ++
  "7B0:Extend 7B1:OLetter 7C0-7C9:Numeric 7CA-7EA:OLetter 7EB-7F3:Extend 7F4-7F5:OLetter 7F8:SConti" ++
  "nue 7F9:STerm 7FA:OLetter 7FD:Extend 800-815:OLetter 816-819:Extend 81A:OLetter 81B-823:Extend 8" ++
  "24:OLetter 825-827:Extend 828:OLetter 829-82D:Extend 837:STerm 839:STerm 83D-83E:STerm 840-858:O" ++
  "Letter 859-85B:Extend 860-86A:OLetter 870-887:OLetter 889-88E:OLetter 890-891:Numeric 897-89F:Ex" ++
  "tend 8A0-8C9:OLetter 8CA-8E1:Extend 8E2:Numeric 8E3-903:Extend 904-939:OLetter 93A-93C:Extend 93" ++
  "D:OLetter 93E-94F:Extend 950:OLetter 951-957:Extend 958-961:OLetter 962-963:Extend 964-965:STerm" ++
  " 966-96F:Numeric 971-980:OLetter 981-983:Extend 985-98C:OLetter 98F-990:OLetter 993-9A8:OLetter " ++
  "9AA-9B0:OLetter 9B2:OLetter 9B6-9B9:OLetter 9BC:Extend 9BD:OLetter 9BE-9C4:Extend 9C7-9C8:Extend" ++
  " 9CB-9CD:Extend 9CE:OLetter 9D7:Extend 9DC-9DD:OLetter 9DF-9E1:OLetter 9E2-9E3:Extend 9E6-9EF:Nu" ++
  "meric 9F0-9F1:OLetter 9FC:OLetter 9FE:Extend A01-A03:Extend A05-A0A:OLetter A0F-A10:OLetter A13-" ++
  "A28:OLetter A2A-A30:OLetter A32-A33:OLetter A35-A36:OLetter A38-A39:OLetter A3C:Extend A3E-A42:E" ++
  "xtend A47-A48:Extend A4B-A4D:Extend A51:Extend A59-A5C:OLetter A5E:OLetter A66-A6F:Numeric A70-A" ++
  "71:Extend A72-A74:OLetter A75:Extend A81-A83:Extend A85-A8D:OLetter A8F-A91:OLetter A93-AA8:OLet" ++
  "ter AAA-AB0:OLetter AB2-AB3:OLetter AB5-AB9:OLetter ABC:Extend ABD:OLetter ABE-AC5:Extend AC7-AC" ++
  "9:Extend ACB-ACD:Extend AD0:OLetter AE0-AE1:OLetter AE2-AE3:Extend AE6-AEF:Numeric AF9:OLetter A" ++
  "FA-AFF:Extend B01-B03:Extend B05-B0C:OLetter B0F-B10:OLetter B13-B28:OLetter B2A-B30:OLetter B32" ++
  "-B33:OLetter B35-B39:OLetter B3C:Extend B3D:OLetter B3E-B44:Extend B47-B48:Extend B4B-B4D:Extend" ++
  " B55-B57:Extend B5C-B5D:OLetter B5F-B61:OLetter B62-B63:Extend B66-B6F:Numeric B71:OLetter B82:E" ++
  "xtend B83:OLetter B85-B8A:OLetter B8E-B90:OLetter B92-B95:OLetter B99-B9A:OLetter B9C:OLetter B9" ++
  "E-B9F:OLetter BA3-BA4:OLetter BA8-BAA:OLetter BAE-BB9:OLetter BBE-BC2:Extend BC6-BC8:Extend BCA-" ++
  "BCD:Extend BD0:OLetter BD7:Extend BE6-BEF:Numeric C00-C04:Extend C05-C0C:OLetter C0E-C10:OLetter" ++
  " C12-C28:OLetter C2A-C39:OLetter C3C:Extend C3D:OLetter C3E-C44:Extend C46-C48:Extend C4A-C4D:Ex" ++
  "tend C55-C56:Extend C58-C5A:OLetter C5D:OLetter C60-C61:OLetter C62-C63:Extend C66-C6F:Numeric C" ++
  "80:OLetter C81-C83:Extend C85-C8C:OLetter C8E-C90:OLetter C92-CA8:OLetter CAA-CB3:OLetter CB5-CB" ++
  "9:OLetter CBC:Extend CBD:OLetter CBE-CC4:Extend CC6-CC8:Extend CCA-CCD:Extend CD5-CD6:Extend CDD" ++
  "-CDE:OLetter CE0-CE1:OLetter CE2-CE3:Extend CE6-CEF:Numeric CF1-CF2:OLetter CF3:Extend D00-D03:E" ++
  "xtend D04-D0C:OLetter D0E-D10:OLetter D12-D3A:OLetter D3B-D3C:Extend D3D:OLetter D3E-D44:Extend " ++
  "D46-D48:Extend D4A-D4D:Extend D4E:OLetter D54-D56:OLetter D57:Extend D5F-D61:OLetter D62-D63:Ext" ++
  "end D66-D6F:Numeric D7A-D7F:OLetter D81-D83:Extend D85-D96:OLetter D9A-DB1:OLetter DB3-DBB:OLett" ++
  "er DBD:OLetter DC0-DC6:OLetter DCA:Extend DCF-DD4:Extend DD6:Extend DD8-DDF:Extend DE6-DEF:Numer" ++
  "ic DF2-DF3:Extend E01-E30:OLetter E31:Extend E32-E33:OLetter E34-E3A:Extend E40-E46:OLetter E47-" ++
  "E4E:Extend E50-E59:Numeric E81-E82:OLetter E84:OLetter E86-E8A:OLetter E8C-EA3:OLetter EA5:OLett" ++
  "er EA7-EB0:OLetter EB1:Extend EB2-EB3:OLetter EB4-EBC:Extend EBD:OLetter EC0-EC4:OLetter EC6:OLe" ++
  "tter EC8-ECE:Extend ED0-ED9:Numeric EDC-EDF:OLetter F00:OLetter F18-F19:Extend F20-F29:Numeric F" ++
  "35:Extend F37:Extend F39:Extend F3A-F3D:Close F3E-F3F:Extend F40-F47:OLetter F49-F6C:OLetter F71" ++
  "-F84:Extend F86-F87:Extend F88-F8C:OLetter F8D-F97:Extend F99-FBC:Extend FC6:Extend 1000-102A:OL" ++
  "etter 102B-103E:Extend 103F:OLetter 1040-1049:Numeric 104A-104B:STerm 1050-1055:OLetter 1056-105" ++
  "9:Extend 105A-105D:OLetter 105E-1060:Extend 1061:OLetter 1062-1064:Extend 1065-1066:OLetter 1067" ++
  "-106D:Extend 106E-1070:OLetter 1071-1074:Extend 1075-1081:OLetter 1082-108D:Extend 108E:OLetter " ++
  "108F:Extend 1090-1099:Numeric 109A-109D:Extend 10A0-10C5:Upper 10C7:Upper 10CD:Upper 10D0-10FA:O" ++
  "Letter 10FC:Lower 10FD-1248:OLetter 124A-124D:OLetter 1250-1256:OLetter 1258:OLetter 125A-125D:O" ++
  "Letter 1260-1288:OLetter 128A-128D:OLetter 1290-12B0:OLetter 12B2-12B5:OLetter 12B8-12BE:OLetter" ++
  " 12C0:OLetter 12C2-12C5:OLetter 12C8-12D6:OLetter 12D8-1310:OLetter 1312-1315:OLetter 1318-135A:" ++
  "OLetter 135D-135F:Extend 1362:STerm 1367-1368:STerm 1380-138F:OLetter 13A0-13F5:Upper 13F8-13FD:" ++
  "Lower 1401-166C:OLetter 166E:STerm 166F-167F:OLetter 1680:Sp 1681-169A:OLetter 169B-169C:Close 1" ++
  "6A0-16EA:OLetter 16EE-16F8:OLetter 1700-1711:OLetter 1712-1715:Extend 171F-1731:OLetter 1732-173" ++
  "4:Extend 1735-1736:STerm 1740-1751:OLetter 1752-1753:Extend 1760-176C:OLetter 176E-1770:OLetter " ++
  "1772-1773:Extend 1780-17B3:OLetter 17B4-17D3:Extend 17D4-17D5:STerm 17D7:OLetter 17DC:OLetter 17" ++
  "DD:Extend 17E0-17E9:Numeric 1802:SContinue 1803:STerm 1808:SContinue 1809:STerm 180B-180D:Extend" ++
  " 180E:Format 180F:Extend 1810-1819:Numeric 1820-1878:OLetter 1880-1884:OLetter 1885-1886:Extend " ++
  "1887-18A8:OLetter 18A9:Extend 18AA:OLetter 18B0-18F5:OLetter 1900-191E:OLetter 1920-192B:Extend " ++
  "1930-193B:Extend 1944-1945:STerm 1946-194F:Numeric 1950-196D:OLetter 1970-1974:OLetter 1980-19AB" ++
  ":OLetter 19B0-19C9:OLetter 19D0-19DA:Numeric 1A00-1A16:OLetter 1A17-1A1B:Extend 1A20-1A54:OLette" ++
  "r 1A55-1A5E:Extend 1A60-1A7C:Extend 1A7F:Extend 1A80-1A89:Numeric 1A90-1A99:Numeric 1AA7:OLetter" ++
  " 1AA8-1AAB:STerm 1AB0-1ACE:Extend 1B00-1B04:Extend 1B05-1B33:OLetter 1B34-1B44:Extend 1B45-1B4C:" ++
  "OLetter 1B4E-1B4F:STerm 1B50-1B59:Numeric 1B5A-1B5B:STerm 1B5E-1B5F:STerm 1B6B-1B73:Extend 1B7D-" ++
  "1B7F:STerm 1B80-1B82:Extend 1B83-1BA0:OLetter 1BA1-1BAD:Extend 1BAE-1BAF:OLetter 1BB0-1BB9:Numer" ++
  "ic 1BBA-1BE5:OLetter 1BE6-1BF3:Extend 1C00-1C23:OLetter 1C24-1C37:Extend 1C3B-1C3C:STerm 1C40-1C" ++
  "49:Numeric 1C4D-1C4F:OLetter 1C50-1C59:Numeric 1C5A-1C7D:OLetter 1C7E-1C7F:STerm 1C80-1C88:Lower" ++
  " 1C89:Upper 1C8A:Lower 1C90-1CBA:OLetter 1CBD-1CBF:OLetter 1CD0-1CD2:Extend 1CD4-1CE8:Extend 1CE" ++
  "9-1CEC:OLetter 1CED:Extend 1CEE-1CF3:OLetter 1CF4:Extend 1CF5-1CF6:OLetter 1CF7-1CF9:Extend 1CFA" ++
  ":OLetter 1D00-1DBF:Lower 1DC0-1DFF:Extend 1E00:Upper 1E01:Lower 1E02:Upper 1E03:Lower 1E04:Upper" ++
  " 1E05:Lower 1E06:Upper 1E07:Lower 1E08:Upper 1E09:Lower 1E0A:Upper 1E0B:Lower 1E0C:Upper 1E0D:Lo" ++
  "wer 1E0E:Upper 1E0F:Lower 1E10:Upper 1E11:Lower 1E12:Upper 1E13:Lower 1E14:Upper 1E15:Lower 1E16" ++
  ":Upper 1E17:Lower 1E18:Upper 1E19:Lower 1E1A:Upper 1E1B:Lower 1E1C:Upper 1E1D:Lower 1E1E:Upper 1" ++
  "E1F:Lower 1E20:Upper 1E21:Lower 1E22:Upper 1E23:Lower 1E24:Upper 1E25:Lower 1E26:Upper 1E27:Lowe" ++
  "r 1E28:Upper 1E29:Lower 1E2A:Upper 1E2B:Lower 1E2C:Upper 1E2D:Lower 1E2E:Upper 1E2F:Lower 1E30:U" ++
  "pper 1E31:Lower 1E32:Upper 1E33:Lower 1E34:Upper 1E35:Lower 1E36:Upper 1E37:Lower 1E38:Upper 1E3" ++
  "9:Lower 1E3A:Upper 1E3B:Lower 1E3C:Upper 1E3D:Lower 1E3E:Upper 1E3F:Lower 1E40:Upper 1E41:Lower " ++
  "1E42:Upper 1E43:Lower 1E44:Upper 1E45:Lower 1E46:Upper 1E47:Lower 1E48:Upper 1E49:Lower 1E4A:Upp" ++
  "er 1E4B:Lower 1E4C:Upper 1E4D:Lower 1E4E:Upper 1E4F:Lower 1E50:Upper 1E51:Lower 1E52:Upper 1E53:" ++
  "Lower 1E54:Upper 1E55:Lower 1E56:Upper 1E57:Lower 1E58:Upper 1E59:Lower 1E5A:Upper 1E5B:Lower 1E" ++
  "5C:Upper 1E5D:Lower 1E5E:Upper 1E5F:Lower 1E60:Upper 1E61:Lower 1E62:Upper 1E63:Lower 1E64:Upper" ++
  " 1E65:Lower 1E66:Upper 1E67:Lower 1E68:Upper 1E69:Lower 1E6A:Upper 1E6B:Lower 1E6C:Upper 1E6D:Lo" ++
  "wer 1E6E:Upper 1E6F:Lower 1E70:Upper 1E71:Lower 1E72:Upper 1E73:Lower 1E74:Upper 1E75:Lower 1E76" ++
  ":Upper 1E77:Lower 1E78:Upper 1E79:Lower 1E7A:Upper 1E7B:Lower 1E7C:Upper 1E7D:Lower 1E7E:Upper 1" ++
  "E7F:Lower 1E80:Upper 1E81:Lower 1E82:Upper 1E83:Lower 1E84:Upper 1E85:Lower 1E86:Upper 1E87:Lowe" ++
  "r 1E88:Upper 1E89:Lower 1E8A:Upper 1E8B:Lower 1E8C:Upper 1E8D:Lower 1E8E:Upper 1E8F:Lower 1E90:U" ++
  "pper 1E91:Lower 1E92:Upper 1E93:Lower 1E94:Upper 1E95-1E9D:Lower 1E9E:Upper 1E9F:Lower 1EA0:Uppe" ++
  "r 1EA1:Lower 1EA2:Upper 1EA3:Lower 1EA4:Upper 1EA5:Lower 1EA6:Upper 1EA7:Lower 1EA8:Upper 1EA9:L" ++
  "ower 1EAA:Upper 1EAB:Lower 1EAC:Upper 1EAD:Lower 1EAE:Upper 1EAF:Lower 1EB0:Upper 1EB1:Lower 1EB" ++
  "2:Upper 1EB3:Lower 1EB4:Upper 1EB5:Lower 1EB6:Upper 1EB7:Lower 1EB8:Upper 1EB9:Lower 1EBA:Upper " ++
  "1EBB:Lower 1EBC:Upper 1EBD:Lower 1EBE:Upper 1EBF:Lower 1EC0:Upper 1EC1:Lower 1EC2:Upper 1EC3:Low" ++
  "er 1EC4:Upper 1EC5:Lower 1EC6:Upper 1EC7:Lower 1EC8:Upper 1EC9:Lower 1ECA:Upper 1ECB:Lower 1ECC:" ++
  "Upper 1ECD:Lower 1ECE:Upper 1ECF:Lower 1ED0:Upper 1ED1:Lower 1ED2:Upper 1ED3:Lower 1ED4:Upper 1E" ++
  "D5:Lower 1ED6:Upper 1ED7:Lower 1ED8:Upper 1ED9:Lower 1EDA:Upper 1EDB:Lower 1EDC:Upper 1EDD:Lower" ++
  " 1EDE:Upper 1EDF:Lower 1EE0:Upper 1EE1:Lower 1EE2:Upper 1EE3:Lower 1EE4:Upper 1EE5:Lower 1EE6:Up" ++
  "per 1EE7:Lower 1EE8:Upper 1EE9:Lower 1EEA:Upper 1EEB:Lower 1EEC:Upper 1EED:Lower 1EEE:Upper 1EEF" ++
  ":Lower 1EF0:Upper 1EF1:Lower 1EF2:Upper 1EF3:Lower 1EF4:Upper 1EF5:Lower 1EF6:Upper 1EF7:Lower 1" ++
  "EF8:Upper 1EF9:Lower 1EFA:Upper 1EFB:Lower 1EFC:Upper 1EFD:Lower 1EFE:Upper 1EFF-1F07:Lower 1F08" ++
  "-1F0F:Upper 1F10-1F15:Lower 1F18-1F1D:Upper 1F20-1F27:Lower 1F28-1F2F:Upper 1F30-1F37:Lower 1F38" ++
  "-1F3F:Upper 1F40-1F45:Lower 1F48-1F4D:Upper 1F50-1F57:Lower 1F59:Upper 1F5B:Upper 1F5D:Upper 1F5" ++
  "F:Upper 1F60-1F67:Lower 1F68-1F6F:Upper 1F70-1F7D:Lower 1F80-1F87:Lower 1F88-1F8F:Upper 1F90-1F9" ++
  "7:Lower 1F98-1F9F:Upper 1FA0-1FA7:Lower 1FA8-1FAF:Upper 1FB0-1FB4:Lower 1FB6-1FB7:Lower 1FB8-1FB" ++
  "C:Upper 1FBE:Lower 1FC2-1FC4:Lower 1FC6-1FC7:Lower 1FC8-1FCC:Upper 1FD0-1FD3:Lower 1FD6-1FD7:Low" ++
  "er 1FD8-1FDB:Upper 1FE0-1FE7:Lower 1FE8-1FEC:Upper 1FF2-1FF4:Lower 1FF6-1FF7:Lower 1FF8-1FFC:Upp" ++
  "er 2000-200A:Sp 200B:Format 200C-200D:Extend 200E-200F:Format 2013-2014:SContinue 2018-201F:Clos" ++
  "e 2024:ATerm 2028-2029:Sep 202A-202E:Format 202F:Sp 2039-203A:Close 203C-203D:STerm 2045-2046:Cl" ++
  "ose 2047-2049:STerm 205F:Sp 2060-2064:Format 2066-206F:Format 2071:Lower 207D-207E:Close 207F:Lo" ++
  "wer 208D-208E:Close 2090-209C:Lower 20D0-20F0:Extend 2102:Upper 2107:Upper 210A:Lower 210B-210D:" ++
  "Upper 210E-210F:Lower 2110-2112:Upper 2113:Lower 2115:Upper 2119-211D:Upper 2124:Upper 2126:Uppe" ++
  "r 2128:Upper 212A-212D:Upper 212F:Lower 2130-2133:Upper 2134:Lower 2135-2138:OLetter 2139:Lower " ++
  "213C-213D:Lower 213E-213F:Upper 2145:Upper 2146-2149:Lower 214E:Lower 2160-216F:Upper 2170-217F:" ++
  "Lower 2180-2182:OLetter 2183:Upper 2184:Lower 2185-2188:OLetter 2308-230B:Close 2329-232A:Close " ++
  "24B6-24CF:Upper 24D0-24E9:Lower 275B-2760:Close 2768-2775:Close 27C5-27C6:Close 27E6-27EF:Close " ++
  "2983-2998:Close 29D8-29DB:Close 29FC-29FD:Close 2C00-2C2F:Upper 2C30-2C5F:Lower 2C60:Upper 2C61:" ++
  "Lower 2C62-2C64:Upper 2C65-2C66:Lower 2C67:Upper 2C68:Lower 2C69:Upper 2C6A:Lower 2C6B:Upper 2C6" ++
  "C:Lower 2C6D-2C70:Upper 2C71:Lower 2C72:Upper 2C73-2C74:Lower 2C75:Upper 2C76-2C7D:Lower 2C7E-2C" ++
  "80:Upper 2C81:Lower 2C82:Upper 2C83:Lower 2C84:Upper 2C85:Lower 2C86:Upper 2C87:Lower 2C88:Upper" ++
  " 2C89:Lower 2C8A:Upper 2C8B:Lower 2C8C:Upper 2C8D:Lower 2C8E:Upper 2C8F:Lower 2C90:Upper 2C91:Lo" ++
  "wer 2C92:Upper 2C93:Lower 2C94:Upper 2C95:Lower 2C96:Upper 2C97:Lower 2C98:Upper 2C99:Lower 2C9A" ++
  ":Upper 2C9B:Lower 2C9C:Upper 2C9D:Lower 2C9E:Upper 2C9F:Lower 2CA0:Upper 2CA1:Lower 2CA2:Upper 2" ++
  "CA3:Lower 2CA4:Upper 2CA5:Lower 2CA6:Upper 2CA7:Lower 2CA8:Upper 2CA9:Lower 2CAA:Upper 2CAB:Lowe" ++
  "r 2CAC:Upper 2CAD:Lower 2CAE:Upper 2CAF:Lower 2CB0:Upper 2CB1:Lower 2CB2:Upper 2CB3:Lower 2CB4:U" ++
  "pper 2CB5:Lower 2CB6:Upper 2CB7:Lower 2CB8:Upper 2CB9:Lower 2CBA:Upper 2CBB:Lower 2CBC:Upper 2CB" ++
  "D:Lower 2CBE:Upper 2CBF:Lower 2CC0:Upper 2CC1:Lower 2CC2:Upper 2CC3:Lower 2CC4:Upper 2CC5:Lower " ++
  "2CC6:Upper 2CC7:Lower 2CC8:Upper 2CC9:Lower 2CCA:Upper 2CCB:Lower 2CCC:Upper 2CCD:Lower 2CCE:Upp" ++
  "er 2CCF:Lower 2CD0:Upper 2CD1:Lower 2CD2:Upper 2CD3:Lower 2CD4:Upper 2CD5:Lower 2CD6:Upper 2CD7:" ++
  "Lower 2CD8:Upper 2CD9:Lower 2CDA:Upper 2CDB:Lower 2CDC:Upper 2CDD:Lower 2CDE:Upper 2CDF:Lower 2C" ++
  "E0:Upper 2CE1:Lower 2CE2:Upper 2CE3-2CE4:Lower 2CEB:Upper 2CEC:Lower 2CED:Upper 2CEE:Lower 2CEF-" ++
  "2CF1:Extend 2CF2:Upper 2CF3:Lower 2CF9-2CFB:STerm 2D00-2D25:Lower 2D27:Lower 2D2D:Lower 2D30-2D6" ++
  "7:OLetter 2D6F:OLetter 2D7F:Extend 2D80-2D96:OLetter 2DA0-2DA6:OLetter 2DA8-2DAE:OLetter 2DB0-2D" ++
  "B6:OLetter 2DB8-2DBE:OLetter 2DC0-2DC6:OLetter 2DC8-2DCE:OLetter 2DD0-2DD6:OLetter 2DD8-2DDE:OLe" ++
  "tter 2DE0-2DFF:Extend 2E00-2E0D:Close 2E1C-2E1D:Close 2E20-2E29:Close 2E2E:STerm 2E2F:OLetter 2E" ++
  "3C:STerm 2E42:Close 2E53-2E54:STerm 2E55-2E5C:Close 3000:Sp 3001:SContinue 3002:STerm 3005-3007:" ++
  "OLetter 3008-3011:Close 3014-301B:Close 301D-301F:Close 3021-3029:OLetter 302A-302F:Extend 3031-" ++
  "3035:OLetter 3038-303C:OLetter 3041-3096:OLetter 3099-309A:Extend 309D-309F:OLetter 30A1-30FA:OL" ++
  "etter 30FC-30FF:OLetter 3105-312F:OLetter 3131-318E:OLetter 31A0-31BF:OLetter 31F0-31FF:OLetter " ++
  "3400-4DBF:OLetter 4E00-A48C:OLetter A4D0-A4FD:OLetter A4FF:STerm A500-A60C:OLetter A60E-A60F:STe" ++
  "rm A610-A61F:OLetter A620-A629:Numeric A62A-A62B:OLetter A640:Upper A641:Lower A642:Upper A643:L" ++
  "ower A644:Upper A645:Lower A646:Upper A647:Lower A648:Upper A649:Lower A64A:Upper A64B:Lower A64" ++
  "C:Upper A64D:Lower A64E:Upper A64F:Lower A650:Upper A651:Lower A652:Upper A653:Lower A654:Upper " ++
  "A655:Lower A656:Upper A657:Lower A658:Upper A659:Lower A65A:Upper A65B:Lower A65C:Upper A65D:Low" ++
  "er A65E:Upper A65F:Lower A660:Upper A661:Lower A662:Upper A663:Lower A664:Upper A665:Lower A666:" ++
  "Upper A667:Lower A668:Upper A669:Lower A66A:Upper A66B:Lower A66C:Upper A66D:Lower A66E:OLetter " ++
  "A66F-A672:Extend A674-A67D:Extend A67F:OLetter A680:Upper A681:Lower A682:Upper A683:Lower A684:" ++
  "Upper A685:Lower A686:Upper A687:Lower A688:Upper A689:Lower A68A:Upper A68B:Lower A68C:Upper A6" ++
  "8D:Lower A68E:Upper A68F:Lower A690:Upper A691:Lower A692:Upper A693:Lower A694:Upper A695:Lower" ++
  " A696:Upper A697:Lower A698:Upper A699:Lower A69A:Upper A69B-A69D:Lower A69E-A69F:Extend A6A0-A6" ++
  "EF:OLetter A6F0-A6F1:Extend A6F3:STerm A6F7:STerm A717-A71F:OLetter A722:Upper A723:Lower A724:U" ++
  "pper A725:Lower A726:Upper A727:Lower A728:Upper A729:Lower A72A:Upper A72B:Lower A72C:Upper A72" ++
  "D:Lower A72E:Upper A72F-A731:Lower A732:Upper A733:Lower A734:Upper A735:Lower A736:Upper A737:L" ++
  "ower A738:Upper A739:Lower A73A:Upper A73B:Lower A73C:Upper A73D:Lower A73E:Upper A73F:Lower A74" ++
  "0:Upper A741:Lower A742:Upper A743:Lower A744:Upper A745:Lower A746:Upper A747:Lower A748:Upper " ++
  "A749:Lower A74A:Upper A74B:Lower A74C:Upper A74D:Lower A74E:Upper A74F:Lower A750:Upper A751:Low" ++
  "er A752:Upper A753:Lower A754:Upper A755:Lower A756:Upper A757:Lower A758:Upper A759:Lower A75A:" ++
  "Upper A75B:Lower A75C:Upper A75D:Lower A75E:Upper A75F:Lower A760:Upper A761:Lower A762:Upper A7" ++
  "63:Lower A764:Upper A765:Lower A766:Upper A767:Lower A768:Upper A769:Lower A76A:Upper A76B:Lower" ++
  " A76C:Upper A76D:Lower A76E:Upper A76F-A778:Lower A779:Upper A77A:Lower A77B:Upper A77C:Lower A7" ++
  "7D-A77E:Upper A77F:Lower A780:Upper A781:Lower A782:Upper A783:Lower A784:Upper A785:Lower A786:" ++
  "Upper A787:Lower A788:OLetter A78B:Upper A78C:Lower A78D:Upper A78E:Lower A78F:OLetter A790:Uppe" ++
  "r A791:Lower A792:Upper A793-A795:Lower A796:Upper A797:Lower A798:Upper A799:Lower A79A:Upper A" ++
  "79B:Lower A79C:Upper A79D:Lower A79E:Upper A79F:Lower A7A0:Upper A7A1:Lower A7A2:Upper A7A3:Lowe" ++
  "r A7A4:Upper A7A5:Lower A7A6:Upper A7A7:Lower A7A8:Upper A7A9:Lower A7AA-A7AE:Upper A7AF:Lower A" ++
  "7B0-A7B4:Upper A7B5:Lower A7B6:Upper A7B7:Lower A7B8:Upper A7B9:Lower A7BA:Upper A7BB:Lower A7BC" ++
  ":Upper A7BD:Lower A7BE:Upper A7BF:Lower A7C0:Upper A7C1:Lower A7C2:Upper A7C3:Lower A7C4-A7C7:Up" ++
  "per A7C8:Lower A7C9:Upper A7CA:Lower A7CB-A7CC:Upper A7CD:Lower A7D0:Upper A7D1:Lower A7D3:Lower" ++
  " A7D5:Lower A7D6:Upper A7D7:Lower A7D8:Upper A7D9:Lower A7DA:Upper A7DB:Lower A7DC:Upper A7F2-A7" ++
  "F4:Lower A7F5:Upper A7F6:Lower A7F7:OLetter A7F8-A7FA:Lower A7FB-A801:OLetter A802:Extend A803-A" ++
  "805:OLetter A806:Extend A807-A80A:OLetter A80B:Extend A80C-A822:OLetter A823-A827:Extend A82C:Ex" ++
  "tend A840-A873:OLetter A876-A877:STerm A880-A881:Extend A882-A8B3:OLetter A8B4-A8C5:Extend A8CE-" ++
  "A8CF:STerm A8D0-A8D9:Numeric A8E0-A8F1:Extend A8F2-A8F7:OLetter A8FB:OLetter A8FD-A8FE:OLetter A" ++
  "8FF:Extend A900-A909:Numeric A90A-A925:OLetter A926-A92D:Extend A92F:STerm A930-A946:OLetter A94" ++
  "7-A953:Extend A960-A97C:OLetter A980-A983:Extend A984-A9B2:OLetter A9B3-A9C0:Extend A9C8-A9C9:ST" ++
  "erm A9CF:OLetter A9D0-A9D9:Numeric A9E0-A9E4:OLetter A9E5:Extend A9E6-A9EF:OLetter A9F0-A9F9:Num" ++
  "eric A9FA-A9FE:OLetter AA00-AA28:OLetter AA29-AA36:Extend AA40-AA42:OLetter AA43:Extend AA44-AA4" ++
  "B:OLetter AA4C-AA4D:Extend AA50-AA59:Numeric AA5D-AA5F:STerm AA60-AA76:OLetter AA7A:OLetter AA7B" ++
  "-AA7D:Extend AA7E-AAAF:OLetter AAB0:Extend AAB1:OLetter AAB2-AAB4:Extend AAB5-AAB6:OLetter AAB7-" ++
  "AAB8:Extend AAB9-AABD:OLetter AABE-AABF:Extend AAC0:OLetter AAC1:Extend AAC2:OLetter AADB-AADD:O" ++
  "Letter AAE0-AAEA:OLetter AAEB-AAEF:Extend AAF0-AAF1:STerm AAF2-AAF4:OLetter AAF5-AAF6:Extend AB0" ++
  "1-AB06:OLetter AB09-AB0E:OLetter AB11-AB16:OLetter AB20-AB26:OLetter AB28-AB2E:OLetter AB30-AB5A" ++
  ":Lower AB5C-AB69:Lower AB70-ABBF:Lower ABC0-ABE2:OLetter ABE3-ABEA:Extend ABEB:STerm ABEC-ABED:E" ++
  "xtend ABF0-ABF9:Numeric AC00-D7A3:OLetter D7B0-D7C6:OLetter D7CB-D7FB:OLetter F900-FA6D:OLetter " ++
  "FA70-FAD9:OLetter FB00-FB06:Lower FB13-FB17:Lower FB1D:OLetter FB1E:Extend FB1F-FB28:OLetter FB2" ++
  "A-FB36:OLetter FB38-FB3C:OLetter FB3E:OLetter FB40-FB41:OLetter FB43-FB44:OLetter FB46-FBB1:OLet" ++
  "ter FBD3-FD3D:OLetter FD3E-FD3F:Close FD50-FD8F:OLetter FD92-FDC7:OLetter FDF0-FDFB:OLetter FE00" ++
  "-FE0F:Extend FE10-FE11:SContinue FE12:STerm FE13-FE14:SContinue FE15-FE16:STerm FE17-FE18:Close " ++
  "FE20-FE2F:Extend FE31-FE32:SContinue FE35-FE44:Close FE47-FE48:Close FE50-FE51:SContinue FE52:AT" ++
  "erm FE54-FE55:SContinue FE56-FE57:STerm FE58:SContinue FE59-FE5E:Close FE63:SContinue FE70-FE74:" ++
  "OLetter FE76-FEFC:OLetter FEFF:Format FF01:STerm FF08-FF09:Close FF0C-FF0D:SContinue FF0E:ATerm " ++
  "FF10-FF19:Numeric FF1A-FF1B:SContinue FF1F:STerm FF21-FF3A:Upper FF3B:Close FF3D:Close FF41-FF5A" ++
  ":Lower FF5B:Close FF5D:Close FF5F-FF60:Close FF61:STerm FF62-FF63:Close FF64:SContinue FF66-FF9D" ++
  ":OLetter FF9E-FF9F:Extend FFA0-FFBE:OLetter FFC2-FFC7:OLetter FFCA-FFCF:OLetter FFD2-FFD7:OLette" ++
  "r FFDA-FFDC:OLetter FFF9-FFFB:Format 10000-1000B:OLetter 1000D-10026:OLetter 10028-1003A:OLetter" ++
  " 1003C-1003D:OLetter 1003F-1004D:OLetter 10050-1005D:OLetter 10080-100FA:OLetter 10140-10174:OLe" ++
  "tter 101FD:Extend 10280-1029C:OLetter 102A0-102D0:OLetter 102E0:Extend 10300-1031F:OLetter 1032D" ++
  "-1034A:OLetter 10350-10375:OLetter 10376-1037A:Extend 10380-1039D:OLetter 103A0-103C3:OLetter 10" ++
  "3C8-103CF:OLetter 103D1-103D5:OLetter 10400-10427:Upper 10428-1044F:Lower 10450-1049D:OLetter 10" ++
  "4A0-104A9:Numeric 104B0-104D3:Upper 104D8-104FB:Lower 10500-10527:OLetter 10530-10563:OLetter 10" ++
  "570-1057A:Upper 1057C-1058A:Upper 1058C-10592:Upper 10594-10595:Upper 10597-105A1:Lower 105A3-10" ++
  "5B1:Lower 105B3-105B9:Lower 105BB-105BC:Lower 105C0-105F3:OLetter 10600-10736:OLetter 10740-1075" ++
  "5:OLetter 10760-10767:OLetter 10780:Lower 10781-10782:OLetter 10783-10785:Lower 10787-107B0:Lowe" ++
  "r 107B2-107BA:Lower 10800-10805:OLetter 10808:OLetter 1080A-10835:OLetter 10837-10838:OLetter 10" ++
  "83C:OLetter 1083F-10855:OLetter 10860-10876:OLetter 10880-1089E:OLetter 108E0-108F2:OLetter 108F" ++
  "4-108F5:OLetter 10900-10915:OLetter 10920-10939:OLetter 10980-109B7:OLetter 109BE-109BF:OLetter " ++
  "10A00:OLetter 10A01-10A03:Extend 10A05-10A06:Extend 10A0C-10A0F:Extend 10A10-10A13:OLetter 10A15" ++
  "-10A17:OLetter 10A19-10A35:OLetter 10A38-10A3A:Extend 10A3F:Extend 10A56-10A57:STerm 10A60-10A7C" ++
  ":OLetter 10A80-10A9C:OLetter 10AC0-10AC7:OLetter 10AC9-10AE4:OLetter 10AE5-10AE6:Extend 10B00-10" ++
  "B35:OLetter 10B40-10B55:OLetter 10B60-10B72:OLetter 10B80-10B91:OLetter 10C00-10C48:OLetter 10C8" ++
  "0-10CB2:Upper 10CC0-10CF2:Lower 10D00-10D23:OLetter 10D24-10D27:Extend 10D30-10D39:Numeric 10D40" ++
  "-10D49:Numeric 10D4A-10D4F:OLetter 10D50-10D65:Upper 10D69-10D6D:Extend 10D6F:OLetter 10D70-10D8" ++
  "5:Lower 10E80-10EA9:OLetter 10EAB-10EAC:Extend 10EB0-10EB1:OLetter 10EC2-10EC4:OLetter 10EFC-10E" ++
  "FF:Extend 10F00-10F1C:OLetter 10F27:OLetter 10F30-10F45:OLetter 10F46-10F50:Extend 10F55-10F59:S" ++
  "Term 10F70-10F81:OLetter 10F82-10F85:Extend 10F86-10F89:STerm 10FB0-10FC4:OLetter 10FE0-10FF6:OL" ++
  "etter 11000-11002:Extend 11003-11037:OLetter 11038-11046:Extend 11047-11048:STerm 11066-1106F:Nu" ++
  "meric 11070:Extend 11071-11072:OLetter 11073-11074:Extend 11075:OLetter 1107F-11082:Extend 11083" ++
  "-110AF:OLetter 110B0-110BA:Extend 110BD:Numeric 110BE-110C1:STerm 110C2:Extend 110CD:Numeric 110" ++
  "D0-110E8:OLetter 110F0-110F9:Numeric 11100-11102:Extend 11103-11126:OLetter 11127-11134:Extend 1" ++
  "1136-1113F:Numeric 11141-11143:STerm 11144:OLetter 11145-11146:Extend 11147:OLetter 11150-11172:" ++
  "OLetter 11173:Extend 11176:OLetter 11180-11182:Extend 11183-111B2:OLetter 111B3-111C0:Extend 111" ++
  "C1-111C4:OLetter 111C5-111C6:STerm 111C9-111CC:Extend 111CD:STerm 111CE-111CF:Extend 111D0-111D9" ++
  ":Numeric 111DA:OLetter 111DC:OLetter 111DE-111DF:STerm 11200-11211:OLetter 11213-1122B:OLetter 1" ++
  "122C-11237:Extend 11238-11239:STerm 1123B-1123C:STerm 1123E:Extend 1123F-11240:OLetter 11241:Ext" ++
  "end 11280-11286:OLetter 11288:OLetter 1128A-1128D:OLetter 1128F-1129D:OLetter 1129F-112A8:OLette" ++
  "r 112A9:STerm 112B0-112DE:OLetter 112DF-112EA:Extend 112F0-112F9:Numeric 11300-11303:Extend 1130" ++
  "5-1130C:OLetter 1130F-11310:OLetter 11313-11328:OLetter 1132A-11330:OLetter 11332-11333:OLetter " ++
  "11335-11339:OLetter 1133B-1133C:Extend 1133D:OLetter 1133E-11344:Extend 11347-11348:Extend 1134B" ++
  "-1134D:Extend 11350:OLetter 11357:Extend 1135D-11361:OLetter 11362-11363:Extend 11366-1136C:Exte" ++
  "nd 11370-11374:Extend 11380-11389:OLetter 1138B:OLetter 1138E:OLetter 11390-113B5:OLetter 113B7:" ++
  "OLetter 113B8-113C0:Extend 113C2:Extend 113C5:Extend 113C7-113CA:Extend 113CC-113D0:Extend 113D1" ++
  ":OLetter 113D2:Extend 113D3:OLetter 113D4-113D5:STerm 113E1-113E2:Extend 11400-11434:OLetter 114" ++
  "35-11446:Extend 11447-1144A:OLetter 1144B-1144C:STerm 11450-11459:Numeric 1145E:Extend 1145F-114" ++
  "61:OLetter 11480-114AF:OLetter 114B0-114C3:Extend 114C4-114C5:OLetter 114C7:OLetter 114D0-114D9:" ++
  "Numeric 11580-115AE:OLetter 115AF-115B5:Extend 115B8-115C0:Extend 115C2-115C3:STerm 115C9-115D7:" ++
  "STerm 115D8-115DB:OLetter 115DC-115DD:Extend 11600-1162F:OLetter 11630-11640:Extend 11641-11642:" ++
  "STerm 11644:OLetter 11650-11659:Numeric 11680-116AA:OLetter 116AB-116B7:Extend 116B8:OLetter 116" ++
  "C0-116C9:Numeric 116D0-116E3:Numeric 11700-1171A:OLetter 1171D-1172B:Extend 11730-11739:Numeric " ++
  "1173C-1173E:STerm 11740-11746:OLetter 11800-1182B:OLetter 1182C-1183A:Extend 118A0-118BF:Upper 1" ++
  "18C0-118DF:Lower 118E0-118E9:Numeric 118FF-11906:OLetter 11909:OLetter 1190C-11913:OLetter 11915" ++
  "-11916:OLetter 11918-1192F:OLetter 11930-11935:Extend 11937-11938:Extend 1193B-1193E:Extend 1193" ++
  "F:OLetter 11940:Extend 11941:OLetter 11942-11943:Extend 11944:STerm 11946:STerm 11950-11959:Nume" ++
  "ric 119A0-119A7:OLetter 119AA-119D0:OLetter 119D1-119D7:Extend 119DA-119E0:Extend 119E1:OLetter " ++
  "119E3:OLetter 119E4:Extend 11A00:OLetter 11A01-11A0A:Extend 11A0B-11A32:OLetter 11A33-11A39:Exte" ++
  "nd 11A3A:OLetter 11A3B-11A3E:Extend 11A42-11A43:STerm 11A47:Extend 11A50:OLetter 11A51-11A5B:Ext" ++
  "end 11A5C-11A89:OLetter 11A8A-11A99:Extend 11A9B-11A9C:STerm 11A9D:OLetter 11AB0-11AF8:OLetter 1" ++
  "1BC0-11BE0:OLetter 11BF0-11BF9:Numeric 11C00-11C08:OLetter 11C0A-11C2E:OLetter 11C2F-11C36:Exten" ++
  "d 11C38-11C3F:Extend 11C40:OLetter 11C41-11C42:STerm 11C50-11C59:Numeric 11C72-11C8F:OLetter 11C" ++
  "92-11CA7:Extend 11CA9-11CB6:Extend 11D00-11D06:OLetter 11D08-11D09:OLetter 11D0B-11D30:OLetter 1" ++
  "1D31-11D36:Extend 11D3A:Extend 11D3C-11D3D:Extend 11D3F-11D45:Extend 11D46:OLetter 11D47:Extend " ++
  "11D50-11D59:Numeric 11D60-11D65:OLetter 11D67-11D68:OLetter 11D6A-11D89:OLetter 11D8A-11D8E:Exte" ++
  "nd 11D90-11D91:Extend 11D93-11D97:Extend 11D98:OLetter 11DA0-11DA9:Numeric 11EE0-11EF2:OLetter 1" ++
  "1EF3-11EF6:Extend 11EF7-11EF8:STerm 11F00-11F01:Extend 11F02:OLetter 11F03:Extend 11F04-11F10:OL" ++
  "etter 11F12-11F33:OLetter 11F34-11F3A:Extend 11F3E-11F42:Extend 11F43-11F44:STerm 11F50-11F59:Nu" ++
  "meric 11F5A:Extend 11FB0:OLetter 12000-12399:OLetter 12400-1246E:OLetter 12480-12543:OLetter 12F" ++
  "90-12FF0:OLetter 13000-1342F:OLetter 13430-1343F:Format 13440:Extend 13441-13446:OLetter 13447-1" ++
  "3455:Extend 13460-143FA:OLetter 14400-14646:OLetter 16100-1611D:OLetter 1611E-1612F:Extend 16130" ++
  "-16139:Numeric 16800-16A38:OLetter 16A40-16A5E:OLetter 16A60-16A69:Numeric 16A6E-16A6F:STerm 16A" ++
  "70-16ABE:OLetter 16AC0-16AC9:Numeric 16AD0-16AED:OLetter 16AF0-16AF4:Extend 16AF5:STerm 16B00-16" ++
  "B2F:OLetter 16B30-16B36:Extend 16B37-16B38:STerm 16B40-16B43:OLetter 16B44:STerm 16B50-16B59:Num" ++
  "eric 16B63-16B77:OLetter 16B7D-16B8F:OLetter 16D40-16D6C:OLetter 16D6E-16D6F:STerm 16D70-16D79:N" ++
  "umeric 16E40-16E5F:Upper 16E60-16E7F:Lower 16E98:STerm 16F00-16F4A:OLetter 16F4F:Extend 16F50:OL" ++
  "etter 16F51-16F87:Extend 16F8F-16F92:Extend 16F93-16F9F:OLetter 16FE0-16FE1:OLetter 16FE3:OLette" ++
  "r 16FE4:Extend 16FF0-16FF1:Extend 17000-187F7:OLetter 18800-18CD5:OLetter 18CFF-18D08:OLetter 1A" ++
  "FF0-1AFF3:OLetter 1AFF5-1AFFB:OLetter 1AFFD-1AFFE:OLetter 1B000-1B122:OLetter 1B132:OLetter 1B15" ++
  "0-1B152:OLetter 1B155:OLetter 1B164-1B167:OLetter 1B170-1B2FB:OLetter 1BC00-1BC6A:OLetter 1BC70-" ++
  "1BC7C:OLetter 1BC80-1BC88:OLetter 1BC90-1BC99:OLetter 1BC9D-1BC9E:Extend 1BC9F:STerm 1BCA0-1BCA3" ++
  ":Format 1CCF0-1CCF9:Numeric 1CF00-1CF2D:Extend 1CF30-1CF46:Extend 1D165-1D169:Extend 1D16D-1D172" ++
  ":Extend 1D173-1D17A:Format 1D17B-1D182:Extend 1D185-1D18B:Extend 1D1AA-1D1AD:Extend 1D242-1D244:" ++
  "Extend 1D400-1D419:Upper 1D41A-1D433:Lower 1D434-1D44D:Upper 1D44E-1D454:Lower 1D456-1D467:Lower" ++
  " 1D468-1D481:Upper 1D482-1D49B:Lower 1D49C:Upper 1D49E-1D49F:Upper 1D4A2:Upper 1D4A5-1D4A6:Upper" ++
  " 1D4A9-1D4AC:Upper 1D4AE-1D4B5:Upper 1D4B6-1D4B9:Lower 1D4BB:Lower 1D4BD-1D4C3:Lower 1D4C5-1D4CF" ++
  ":Lower 1D4D0-1D4E9:Upper 1D4EA-1D503:Lower 1D504-1D505:Upper 1D507-1D50A:Upper 1D50D-1D514:Upper" ++
  " 1D516-1D51C:Upper 1D51E-1D537:Lower 1D538-1D539:Upper 1D53B-1D53E:Upper 1D540-1D544:Upper 1D546" ++
  ":Upper 1D54A-1D550:Upper 1D552-1D56B:Lower 1D56C-1D585:Upper 1D586-1D59F:Lower 1D5A0-1D5B9:Upper" ++
  " 1D5BA-1D5D3:Lower 1D5D4-1D5ED:Upper 1D5EE-1D607:Lower 1D608-1D621:Upper 1D622-1D63B:Lower 1D63C" ++
  "-1D655:Upper 1D656-1D66F:Lower 1D670-1D689:Upper 1D68A-1D6A5:Lower 1D6A8-1D6C0:Upper 1D6C2-1D6DA" ++
  ":Lower 1D6DC-1D6E1:Lower 1D6E2-1D6FA:Upper 1D6FC-1D714:Lower 1D716-1D71B:Lower 1D71C-1D734:Upper" ++
  " 1D736-1D74E:Lower 1D750-1D755:Lower 1D756-1D76E:Upper 1D770-1D788:Lower 1D78A-1D78F:Lower 1D790" ++
  "-1D7A8:Upper 1D7AA-1D7C2:Lower 1D7C4-1D7C9:Lower 1D7CA:Upper 1D7CB:Lower 1D7CE-1D7FF:Numeric 1DA" ++
  "00-1DA36:Extend 1DA3B-1DA6C:Extend 1DA75:Extend 1DA84:Extend 1DA88:STerm 1DA9B-1DA9F:Extend 1DAA" ++
  "1-1DAAF:Extend 1DF00-1DF09:Lower 1DF0A:OLetter 1DF0B-1DF1E:Lower 1DF25-1DF2A:Lower 1E000-1E006:E" ++
  "xtend 1E008-1E018:Extend 1E01B-1E021:Extend 1E023-1E024:Extend 1E026-1E02A:Extend 1E030-1E06D:Lo" ++
  "wer 1E08F:Extend 1E100-1E12C:OLetter 1E130-1E136:Extend 1E137-1E13D:OLetter 1E140-1E149:Numeric " ++
  "1E14E:OLetter 1E290-1E2AD:OLetter 1E2AE:Extend 1E2C0-1E2EB:OLetter 1E2EC-1E2EF:Extend 1E2F0-1E2F" ++
  "9:Numeric 1E4D0-1E4EB:OLetter 1E4EC-1E4EF:Extend 1E4F0-1E4F9:Numeric 1E5D0-1E5ED:OLetter 1E5EE-1" ++
  "E5EF:Extend 1E5F0:OLetter 1E5F1-1E5FA:Numeric 1E7E0-1E7E6:OLetter 1E7E8-1E7EB:OLetter 1E7ED-1E7E" ++
  "E:OLetter 1E7F0-1E7FE:OLetter 1E800-1E8C4:OLetter 1E8D0-1E8D6:Extend 1E900-1E921:Upper 1E922-1E9" ++
  "43:Lower 1E944-1E94A:Extend 1E94B:OLetter 1E950-1E959:Numeric 1EE00-1EE03:OLetter 1EE05-1EE1F:OL" ++
  "etter 1EE21-1EE22:OLetter 1EE24:OLetter 1EE27:OLetter 1EE29-1EE32:OLetter 1EE34-1EE37:OLetter 1E" ++
  "E39:OLetter 1EE3B:OLetter 1EE42:OLetter 1EE47:OLetter 1EE49:OLetter 1EE4B:OLetter 1EE4D-1EE4F:OL" ++
  "etter 1EE51-1EE52:OLetter 1EE54:OLetter 1EE57:OLetter 1EE59:OLetter 1EE5B:OLetter 1EE5D:OLetter " ++
  "1EE5F:OLetter 1EE61-1EE62:OLetter 1EE64:OLetter 1EE67-1EE6A:OLetter 1EE6C-1EE72:OLetter 1EE74-1E" ++
  "E77:OLetter 1EE79-1EE7C:OLetter 1EE7E:OLetter 1EE80-1EE89:OLetter 1EE8B-1EE9B:OLetter 1EEA1-1EEA" ++
  "3:OLetter 1EEA5-1EEA9:OLetter 1EEAB-1EEBB:OLetter 1F130-1F149:Upper 1F150-1F169:Upper 1F170-1F18" ++
  "9:Upper 1F676-1F678:Close 1FBF0-1FBF9:Numeric 20000-2A6DF:OLetter 2A700-2B739:OLetter 2B740-2B81" ++
  "D:OLetter 2B820-2CEA1:OLetter 2CEB0-2EBE0:OLetter 2EBF0-2EE5D:OLetter 2F800-2FA1D:OLetter 30000-" ++
  "3134A:OLetter 31350-323AF:OLetter E0001:Format E0020-E007F:Extend E0100-E01EF:Extend ")

/-- The `Grapheme_Cluster_Break` values that some code point has. -/
def graphemeBreakValues : List String :=
  "CR Control Extend L LF LV LVT Prepend Regional_Indicator SpacingMark T V ZWJ".splitOn " "

/-- The `Word_Break` values that some code point has. -/
def wordBreakValues : List String :=
  "ALetter CR Double_Quote Extend ExtendNumLet Format Hebrew_Letter Katakana LF MidLetter MidNum MidNumLet Newline Numeric Regional_Indicator Single_Quote WSegSpace ZWJ".splitOn " "

/-- The `Sentence_Break` values that some code point has. -/
def sentenceBreakValues : List String :=
  "ATerm CR Close Extend Format LF Lower Numeric OLetter SContinue STerm Sep Sp Upper".splitOn " "

/-- The names of the `Grapheme_Cluster_Break` values in loose form, with their long names. -/
def graphemeBreakNames : List (String × String) :=
  aliasPairs (
  "cn:Control control:Control cr:CR eb:E_Base ebase:E_Base ebasegaz:E_Base_GAZ ebg:E_Base_GAZ em:E_" ++
  "Modifier emodifier:E_Modifier ex:Extend extend:Extend gaz:Glue_After_Zwj glueafterzwj:Glue_After" ++
  "_Zwj l:L lf:LF lv:LV lvt:LVT other:Other pp:Prepend prepend:Prepend regionalindicator:Regional_I" ++
  "ndicator ri:Regional_Indicator sm:SpacingMark spacingmark:SpacingMark t:T v:V xx:Other zwj:ZWJ ")

/-- The names of the `Word_Break` values in loose form, with their long names. -/
def wordBreakNames : List (String × String) :=
  aliasPairs (
  "aletter:ALetter cr:CR doublequote:Double_Quote dq:Double_Quote eb:E_Base ebase:E_Base ebasegaz:E" ++
  "_Base_GAZ ebg:E_Base_GAZ em:E_Modifier emodifier:E_Modifier ex:ExtendNumLet extend:Extend extend" ++
  "numlet:ExtendNumLet fo:Format format:Format gaz:Glue_After_Zwj glueafterzwj:Glue_After_Zwj hebre" ++
  "wletter:Hebrew_Letter hl:Hebrew_Letter ka:Katakana katakana:Katakana le:ALetter lf:LF mb:MidNumL" ++
  "et midletter:MidLetter midnum:MidNum midnumlet:MidNumLet ml:MidLetter mn:MidNum newline:Newline " ++
  "nl:Newline nu:Numeric numeric:Numeric other:Other regionalindicator:Regional_Indicator ri:Region" ++
  "al_Indicator singlequote:Single_Quote sq:Single_Quote wsegspace:WSegSpace xx:Other zwj:ZWJ ")

/-- The names of the `Sentence_Break` values in loose form, with their long names. -/
def sentenceBreakNames : List (String × String) :=
  aliasPairs (
  "at:ATerm aterm:ATerm cl:Close close:Close cr:CR ex:Extend extend:Extend fo:Format format:Format " ++
  "le:OLetter lf:LF lo:Lower lower:Lower nu:Numeric numeric:Numeric oletter:OLetter other:Other sc:" ++
  "SContinue scontinue:SContinue se:Sep sep:Sep sp:Sp st:STerm sterm:STerm up:Upper upper:Upper xx:" ++
  "Other ")

end Text

end FilterQuery
