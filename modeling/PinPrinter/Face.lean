/-! # The built-in face

The patterns of the built-in bitmap face, 12 pixels wide and 24 high. A pattern is one number of
24 rows of three hexadecimal digits, the top row first and the leftmost pixel highest. The entries
are in the order of their code points.
-/

namespace PinPrinter.Face

/-- The width of a pattern in pixels. -/
def width : Nat := 12

/-- The height of a pattern in pixels. -/
def height : Nat := 24

/-- The code points of the face with their patterns. -/
def patterns : Array (Nat × Nat) := #[
  (0x0000, 0x00000000000000000030c1980f01f830c30c30c30c1f80f019830c000000000000000000),
  (0x0020, 0x000000000000000000000000000000000000000000000000000000000000000000000000),
  (0x0021, 0x000000000000060060060060060060060060060060060000000060060000000000000000),
  (0x0022, 0x00000030c30c30c30c30c30c30c000000000000000000000000000000000000000000000),
  (0x0023, 0x00000000000030c30c30c7fe30c30c30c30c30c30c30c7fe30c30c30c000000000000000),
  (0x0024, 0x0000000600601fe3606606606606603601f806c06606606606606c7f8060060000000000),
  (0x0025, 0x00000000000000000c38c6d86d83b00300600600c00dc1b61b631c300000000000000000),
  (0x0026, 0x0000000000000f019830c30c30c30c1980f033061a60e60c60c31e1f3000000000000000),
  (0x0027, 0x000000060060060060060060060000000000000000000000000000000000000000000000),
  (0x0028, 0x00000000e0180300600c00c01801801801801801801801800c00c006003001800e000000),
  (0x0029, 0x0000007001800c00600300300180180180180180180180180300300600c0180700000000),
  (0x002A, 0x00000000000000000000000030c1980f00607fe0600f019830c000000000000000000000),
  (0x002B, 0x0000000000000000000000000000600600603fc060060060000000000000000000000000),
  (0x002C, 0x0000000000000000000000000000000000000000000000000600600600c0180000000000),
  (0x002D, 0x0000000000000000000000000000000000003fc000000000000000000000000000000000),
  (0x002E, 0x000000000000000000000000000000000000000000000000000060060000000000000000),
  (0x002F, 0x00000000300300600600c00c0180180300300600600c00c0180180300300600600000000),
  (0x0030, 0x0000000000001f830c60660660e61e6366666c678670660660630c1f8000000000000000),
  (0x0031, 0x0000000000000e01e03602600600600600600600600600600600603fc000000000000000),
  (0x0032, 0x0000000000001f830c60600600600600c0180300600c01803006067fe000000000000000),
  (0x0033, 0x0000000000001f830c60600600600c0f800c00600600600660630c1f8000000000000000),
  (0x0034, 0x0000000000006006006006186186186186186186187fe018018018018000000000000000),
  (0x0035, 0x0000000000007fe6066006006006007f800c00600600600660630c1f8000000000000000),
  (0x0036, 0x0000000000001fc3066006006006007f860c60660660660660630c1f8000000000000000),
  (0x0037, 0x0000000000007fe60600600600600c0180300600c00c00c00c00c00c0000000000000000),
  (0x0038, 0x0000000000001f830c60660660630c1f830c60660660660660630c1f8000000000000000),
  (0x0039, 0x0000000000001f830c6066066066066063061fe00600600600660c3f8000000000000000),
  (0x003A, 0x000000000000000000000000000000060060000000000000000060060000000000000000),
  (0x003B, 0x0000000000000000000000000000000600600000000000000600600600c0180000000000),
  (0x003C, 0x00000000000000600c0180300600c01803001800c006003001800c006000000000000000),
  (0x003D, 0x0000000000000000000000000007fe0000000000007fe000000000000000000000000000),
  (0x003E, 0x0000000000003001800c006003001800c00600c0180300600c0180300000000000000000),
  (0x003F, 0x0000000000001f830c60600600600c018030060060060000000060060000000000000000),
  (0x0040, 0x0000000000000001f830c60660667667667667667667667e6003001fc000000000000000),
  (0x0041, 0x0000000000001f830c6066066066066067fe606606606606606606606000000000000000),
  (0x0042, 0x0000000000007f860c60660660660660c7f860c60660660660660c7f8000000000000000),
  (0x0043, 0x0000000000001fe3006006006006006006006006006006006003001fe000000000000000),
  (0x0044, 0x0000000000007f860c60660660660660660660660660660660660c7f8000000000000000),
  (0x0045, 0x0000000000001fe3006006006006006007f86006006006006003001fe000000000000000),
  (0x0046, 0x0000000000001fe3006006006006006007f8600600600600600600600000000000000000),
  (0x0047, 0x0000000000001fe30060060060060060063e6066066066066063061fe000000000000000),
  (0x0048, 0x0000000000006066066066066066066067fe606606606606606606606000000000000000),
  (0x0049, 0x0000000000003fc0600600600600600600600600600600600600603fc000000000000000),
  (0x004A, 0x0000000000003fc0600600600600600600600600600600600600e07c0000000000000000),
  (0x004B, 0x00000000000060660660660660660c6187f061860c606606606606606000000000000000),
  (0x004C, 0x0000000000006006006006006006006006006006006006006003001fe000000000000000),
  (0x004D, 0x00000000000060670e79e6f6666606606606606606606606606606606000000000000000),
  (0x004E, 0x0000000000006067067067867866c66c666666663663661e61e60e60e000000000000000),
  (0x004F, 0x0000000000001f830c60660660660660660660660660660660630c1f8000000000000000),
  (0x0050, 0x0000000000007f860c60660660660660c7f8600600600600600600600000000000000000),
  (0x0051, 0x0000000000001f830c60660660660660660660660666666663633c1f801800c00c000000),
  (0x0052, 0x0000000000007f860c60660660660660c7f860c606606606606606606000000000000000),
  (0x0053, 0x0000000000001fe3006006006006003001f800c00600600600600c7f8000000000000000),
  (0x0054, 0x0000000000007fe060060060060060060060060060060060060060060000000000000000),
  (0x0055, 0x0000000000006066066066066066066066066066066066066063061fe000000000000000),
  (0x0056, 0x00000000000060660660660660660660660660660630c30c1980f0060000000000000000),
  (0x0057, 0x0000000000006066066066066066066066066066066666f679e70e606000000000000000),
  (0x0058, 0x00000000000060660660660660660630c1f830c606606606606606606000000000000000),
  (0x0059, 0x0000000000006066066066066066063061fe00600600600600600e7fc000000000000000),
  (0x005A, 0x0000000000007fe00600600600c0180300600c01803006006006007fe000000000000000),
  (0x005B, 0x0001fe1801801801801801801801801801801801801801801801801801801801801fe000),
  (0x005C, 0x000000c00c006006003003001801800c00c006006003003001801800c00c006006000000),
  (0x005D, 0x0007f80180180180180180180180180180180180180180180180180180180180187f8000),
  (0x005E, 0x0000000400e01b031860cc06000000000000000000000000000000000000000000000000),
  (0x005F, 0x0000000000000000000000000000000000000000000000000000000000000000007fe000),
  (0x0060, 0x0000001800c0060030000000000000000000000000000000000000000000000000000000),
  (0x0061, 0x0000000000000000000000003f800c0060061fe3066066066063061fe000000000000000),
  (0x0062, 0x0000000000006006006006007f860c60660660660660660660660c7f8000000000000000),
  (0x0063, 0x0000000000000000000000001fe3006006006006006006006003001fe000000000000000),
  (0x0064, 0x0000000000000060060060061fe3066066066066066066066063061fe000000000000000),
  (0x0065, 0x0000000000000000000000001fe3066066066067fe6006006003001fe000000000000000),
  (0x0066, 0x00000000000007c0e00c00c00c00c03f80c00c00c00c00c00c00c00c0000000000000000),
  (0x0067, 0x0000000000000000000000001fe3066066066066066066066063061fc00c00600600c3f8),
  (0x0068, 0x0000000000006006006006007f860c606606606606606606606606606000000000000000),
  (0x0069, 0x0000000000000600600000001e0060060060060060060060060060078000000000000000),
  (0x006A, 0x0000000000000600600000000600600600600600600600600600600600600600600c0780),
  (0x006B, 0x00000000000030030030030030c30c3183303e036033031830c306306000000000000000),
  (0x006C, 0x0000000000000c00c00c00c00c00c00c00c00c00c00c00c00c00e007c000000000000000),
  (0x006D, 0x00000000000000000000000079866c666666666666666666606606606000000000000000),
  (0x006E, 0x0000000000000000000000007f860c606606606606606606606606606000000000000000),
  (0x006F, 0x0000000000000000000000001f830c60660660660660660660630c1f8000000000000000),
  (0x0070, 0x0000000000000000000000007f860c60660660660660660660660c7f8600600600600600),
  (0x0071, 0x0000000000000000000000001fe3066066066066066066066063061fe006006006006006),
  (0x0072, 0x0000000000000000000000001fe306600600600600600600600600600000000000000000),
  (0x0073, 0x0000000000000000000000003fe6006006006003fc0060060060067fc000000000000000),
  (0x0074, 0x0000000000000c00c00c00c03f80c00c00c00c00c00c00c00c00e007c000000000000000),
  (0x0075, 0x0000000000000000000000006066066066066066066066066063061fe000000000000000),
  (0x0076, 0x00000000000000000000000060660660660660660630c30c1980f0060000000000000000),
  (0x0077, 0x00000000000000000000000060660660666666666666666666636619e000000000000000),
  (0x0078, 0x00000000000000000000000060660630c1980f00f019830c30c606606000000000000000),
  (0x0079, 0x0000000000000000000000006066066066066066066066066063061fe00600600600c7f8),
  (0x007A, 0x0000000000000000000000007fe00600c0180300600c01803006007fe000000000000000),
  (0x007B, 0x00001e0300600600600600600600600c03803800c006006006006006006006003001e000),
  (0x007C, 0x000000000060060060060060060060060060060060060060060060060060060000000000),
  (0x007D, 0x0003c006003003003003003003003001800e00e0180300300300300300300300603c0000),
  (0x007E, 0x0000000000000000000000000000003866c6c6cc38000000000000000000000000000000),
  (0x007F, 0x1800c00600001f830c60660660660660660660660660660660630c1f8000000000000000),
  (0x00A1, 0x000000000000060060000000060060060060060060060060060060060000000000000000),
  (0x00A2, 0x0000000000000000000300301fe3306306306306306306306303301fe030030000000000),
  (0x00A3, 0x0000000000000700d818c18c1801801807f81801801801803003007fe000000000000000),
  (0x00A4, 0x00000000000000000030c1980f01f830c30c30c30c1f80f019830c000000000000000000),
  (0x00A5, 0x00000000000060660630c30c1981980f00f00603fc0600603fc060060000000000000000),
  (0x00A6, 0x000000000060060060060060060060060000000060060060060060060060060000000000),
  (0x00A7, 0x0000000000f81983183001800e01f830c30c30c30c1f807001800c18c1981f0000000000),
  (0x00A8, 0x00000000030c30c000000000000000000000000000000000000000000000000000000000),
  (0x00A9, 0x0000000000000000000001f830c6066766c66c66c66c667660630c1f8000000000000000),
  (0x00AA, 0x0000000f00180180f81981980f80001f8000000000000000000000000000000000000000),
  (0x00AC, 0x0000000000000000000000000007fe006006006006006000000000000000000000000000),
  (0x00AE, 0x0000000000000000000001f830c6066e66d66d66e66d66d660630c1f8000000000000000),
  (0x00B0, 0x0000000000f01981981981980f0000000000000000000000000000000000000000000000),
  (0x00B1, 0x0000000000000000000000600600603fc0600600600000003fc000000000000000000000),
  (0x00B2, 0x0000000000f01980180300600c01981f8000000000000000000000000000000000000000),
  (0x00B3, 0x0000000000f01980180700180181980f0000000000000000000000000000000000000000),
  (0x00B4, 0x0000000180300600c0000000000000000000000000000000000000000000000000000000),
  (0x00B6, 0x0000000000001fe3666666666666663661e6066066066066066066066000000000000000),
  (0x00B7, 0x000000000000000000000000000000000060060000000000000000000000000000000000),
  (0x00B8, 0x0000000000000000000000000000000000000000000000000000000000300300300600c0),
  (0x00B9, 0x0000000000600e01e00600600600600f0000000000000000000000000000000000000000),
  (0x00BA, 0x0000000000f01981981981980f00001f8000000000000000000000000000000000000000),
  (0x00BC, 0x00000018038078018018018618c3d80300600c018030066006006c06c07e00c00c000000),
  (0x00BD, 0x00000018038078018018018618c3d80300600c018033c66600600c01803006607e000000),
  (0x00BE, 0x0000003c06600601c00606663cc0180300600c018030066006006c06c07e00c00c000000),
  (0x00BF, 0x0000000000000600600000000600600600c018030060060060630c1f8000000000000000),
  (0x00C0, 0x1800c00600001f830c6066066066066067fe606606606606606606606000000000000000),
  (0x00C1, 0x0180300600001f830c6066066066066067fe606606606606606606606000000000000000),
  (0x00C2, 0x0f019830c0001f830c6066066066066067fe606606606606606606606000000000000000),
  (0x00C3, 0x1c63fc6380001f830c6066066066066067fe606606606606606606606000000000000000),
  (0x00C4, 0x00030c30c0001f830c6066066066066067fe606606606606606606606000000000000000),
  (0x00C6, 0x0000000000001fe3306306306306306307fc63063063063063063063e000000000000000),
  (0x00C7, 0x0000000000001fe3006006006006006006006006006006006003001fe0300300300600c0),
  (0x00C8, 0x1800c00600001fe3006006006006006007f86006006006006003001fe000000000000000),
  (0x00C9, 0x0180300600001fe3006006006006006007f86006006006006003001fe000000000000000),
  (0x00CA, 0x0f019830c0001fe3006006006006006007f86006006006006003001fe000000000000000),
  (0x00CC, 0x0c00600300003fc0600600600600600600600600600600600600603fc000000000000000),
  (0x00CD, 0x0300600c00003fc0600600600600600600600600600600600600603fc000000000000000),
  (0x00CE, 0x0f019830c0003fc0600600600600600600600600600600600600603fc000000000000000),
  (0x00D1, 0x1c63fc6380006067067067867866c66c666666663663661e61e60e60e000000000000000),
  (0x00D2, 0x1800c00600001f830c60660660660660660660660660660660630c1f8000000000000000),
  (0x00D3, 0x0180300600001f830c60660660660660660660660660660660630c1f8000000000000000),
  (0x00D4, 0x0f019830c0001f830c60660660660660660660660660660660630c1f8000000000000000),
  (0x00D5, 0x1c63fc6380001f830c60660660660660660660660660660660630c1f8000000000000000),
  (0x00D6, 0x00030c30c0001f830c60660660660660660660660660660660630c1f8000000000000000),
  (0x00D7, 0x00000000000000000000060630c1980f00600600f019830c606000000000000000000000),
  (0x00D8, 0x0000000000061fe30c60e61e61e6366366666666c66c678678630c3f8600600000000000),
  (0x00D9, 0x1800c00600006066066066066066066066066066066066066063061fe000000000000000),
  (0x00DA, 0x0180300600006066066066066066066066066066066066066063061fe000000000000000),
  (0x00DB, 0x0f019830c0006066066066066066066066066066066066066063061fe000000000000000),
  (0x00DC, 0x00030c30c0006066066066066066066066066066066066066063061fe000000000000000),
  (0x00DD, 0x0180300600006066066066066066063061fe00600600600600600e7fc000000000000000),
  (0x00DE, 0x0000000000000006006006007f860c60660660660660660660660c7f8600600600000000),
  (0x00DF, 0x0000000000001e03306186186186186306f063860c6066066066866cc678000000000000),
  (0x00E0, 0x0000001800c00600300000003f800c0060061fe3066066066063061fe000000000000000),
  (0x00E1, 0x0000000180300600c00000003f800c0060061fe3066066066063061fe000000000000000),
  (0x00E2, 0x0000000600f019830c0000003f800c0060061fe3066066066063061fe000000000000000),
  (0x00E3, 0x0000001863c666c6380000003f800c0060061fe3066066066063061fe000000000000000),
  (0x00E4, 0x00000000030c30c0000000003f800c0060061fe3066066066063061fe000000000000000),
  (0x00E5, 0x0000000f01981980f00000003f800c0060061fe3066066066063061fe000000000000000),
  (0x00E6, 0x00000000000000000000000039e0f60660661fe3606606606603701de000000000000000),
  (0x00E7, 0x0000000000000000000000001fe3006006006006006006006003001fe0300300300600c0),
  (0x00E8, 0x0000001800c00600300000001fe3066066066067fe6006006003001fe000000000000000),
  (0x00E9, 0x0000000180300600c00000001fe3066066066067fe6006006003001fe000000000000000),
  (0x00EA, 0x0000000600f019830c0000001fe3066066066067fe6006006003001fe000000000000000),
  (0x00EC, 0x0000001800c00600300000001e0060060060060060060060060060078000000000000000),
  (0x00ED, 0x0000000180300600c00000001e0060060060060060060060060060078000000000000000),
  (0x00EE, 0x0000000600f019830c0000001e0060060060060060060060060060078000000000000000),
  (0x00F0, 0x0000006603c01803c06600301f830c60660660660660660660630c1f8000000000000000),
  (0x00F1, 0x0000001863c666c6380000007f860c606606606606606606606606606000000000000000),
  (0x00F2, 0x0000001800c00600300000001f830c60660660660660660660630c1f8000000000000000),
  (0x00F3, 0x0000000180300600c00000001f830c60660660660660660660630c1f8000000000000000),
  (0x00F4, 0x0000000600f019830c0000001f830c60660660660660660660630c1f8000000000000000),
  (0x00F5, 0x0000001863c666c6380000001f830c60660660660660660660630c1f8000000000000000),
  (0x00F6, 0x00000000030c30c0000000001f830c60660660660660660660630c1f8000000000000000),
  (0x00F7, 0x0000000000000000000000000600600000003fc000000060060000000000000000000000),
  (0x00F8, 0x0000000000000000000000011fb30e60e61e6366666c678670670cdf8800000000000000),
  (0x00F9, 0x0000001800c00600300000006066066066066066066066066063061fe000000000000000),
  (0x00FA, 0x0000000180300600c00000006066066066066066066066066063061fe000000000000000),
  (0x00FB, 0x0000000600f019830c0000006066066066066066066066066063061fe000000000000000),
  (0x00FC, 0x00000000030c30c0000000006066066066066066066066066063061fe000000000000000),
  (0x00FD, 0x0000000180300600c00000006066066066066066066066066063061fe00600600600c7f8),
  (0x00FE, 0x0000000006006006006006007f860c60660660660660660660660c7f8600600600600600),
  (0x00FF, 0x00000000030c30c0000000006066066066066066066066066063061fe00600600600c7f8),
  (0x0131, 0x0000000000000000000000001e0060060060060060060060060060078000000000000000),
  (0x040E, 0x1981980f00006066066066066066063061fe00600600600600600e7fc000000000000000),
  (0x0411, 0x0000000000007f86006006006006006007f860c60660660660660c7f8000000000000000),
  (0x0414, 0x0000000000000fc18c30c30c30c30c30c30c30c30c30c30c3fc606606000000000000000),
  (0x0416, 0x00000000000066666666666666666636c1f836c666666666666666666000000000000000),
  (0x0417, 0x0000000000007f800c00600600600c1f800c00600600600600600c7f8000000000000000),
  (0x0418, 0x00000000000060660e60e61e61e6366366666666c66c6786786706706000000000000000),
  (0x0419, 0x1981980f000060660e60e61e61e6366366666666c66c6786786706706000000000000000),
  (0x041B, 0x0000000000001fe306606606606606606606606606606606606606606000000000000000),
  (0x0423, 0x0000000000006066066066066066063061fe00600600600600600e7fc000000000000000),
  (0x0426, 0x0000000000006066066066066066066066066066066066066063061ff00300300300600c),
  (0x0427, 0x0000000000006066066066066066063061fe006006006006006006006000000000000000),
  (0x0428, 0x00000000000066666666666666666666666666666666666666636c1f8000000000000000),
  (0x0429, 0x0000000000006666666666666666666666666666666666666663661ff00300300300600c),
  (0x042A, 0x000000000000f801801801801801801801f818c18618618618618c1f8000000000000000),
  (0x042B, 0x0000000000006066066066066066066067c66666366366366366667c6000000000000000),
  (0x042C, 0x0000000000001801801801801801801801f818c18618618618618c1f8000000000000000),
  (0x042D, 0x0000000000007f800c0060060060060061fe00600600600600600c7f8000000000000000),
  (0x042E, 0x00000000000063866c6c66c66c66c66c67c66c66c66c66c66c666c638000000000000000),
  (0x042F, 0x0000000000001fe3066066066066063061fe306606606606606606606000000000000000),
  (0x0431, 0x0000000000000000000000001fc3006006007f860c60660660630c1f8000000000000000),
  (0x0432, 0x0000000000001c03606306306306307607f860c60660660660630c1f8000000000000000),
  (0x0433, 0x0000000000000000000000007fc0060060060063fc6006006006003fe000000000000000),
  (0x0434, 0x0000000000000000000000001fe3066066066066066066066063061fe00600600600c3f8),
  (0x0436, 0x00000000000000000000000066666636c1f80f00f01f836c36c666666000000000000000),
  (0x0437, 0x0000000000000000000000007f800c00600600c1f800c00600600c7f8000000000000000),
  (0x0438, 0x0000000000000000000000006066066066066066066066066063061fe000000000000000),
  (0x0439, 0x0000000001981980f00000006066066066066066066066066063061fe000000000000000),
  (0x043A, 0x00000000000000000000000030c30c3183303603e033031830c306306000000000000000),
  (0x043B, 0x0000000000000000000000001fe306606606606606606606606606606000000000000000),
  (0x043C, 0x00000000000000000000000060670e79e6f6666606606606606606606000000000000000),
  (0x043D, 0x0000000000000000000000006066066066066067fe606606606606606000000000000000),
  (0x043F, 0x0000000000000000000000007f860c606606606606606606606606606000000000000000),
  (0x0442, 0x00000000000000000000000079866c666666666666666666606606606000000000000000),
  (0x0444, 0x0000000000000000000000001f836c66666666666666666666636c1f8060060060000000),
  (0x0446, 0x0000000000000000000000006066066066066066066066066063061ff00300300300600c),
  (0x0447, 0x0000000000000000000000006066066066066063061fe006006006006000000000000000),
  (0x0448, 0x00000000000000000000000060660660666666666666666666636619e000000000000000),
  (0x0449, 0x00000000000000000000000060660660666666666666666666636619f00300300300600c),
  (0x044A, 0x000000000000000000000000f801801801801f818c18618618618c1f8000000000000000),
  (0x044B, 0x0000000000000000000000006066066066067c66666366366366667c6000000000000000),
  (0x044C, 0x0000000000000000000000001801801801801f818c18618618618c1f8000000000000000),
  (0x044D, 0x0000000000000000000000007f800c0060060061fe00600600600c7f8000000000000000),
  (0x044E, 0x00000000000000000000000063866c6c66c66c67c66c66c66c666c638000000000000000),
  (0x044F, 0x0000000000000000000000001fe3066066063061fe306606606606606000000000000000),
  (0x045E, 0x0000000001981980f00000006066066066066066066066066063061fe00600600600c7f8),
  (0x203C, 0x00000000000030c30c30c30c30c30c30c30c30c30c30c00000030c30c000000000000000),
  (0x207F, 0x0000000001f0198198198198198198198000000000000000000000000000000000000000),
  (0x20AC, 0x0000000000000780cc186186300300ff0300300ff03003001861860cc078000000000000),
  (0x2248, 0x0000000000000000000000001c636c6380000001c636c638000000000000000000000000),
  (0x2310, 0x0000000000000000000000000007fe600600600600600000000000000000000000000000),
  (0x2580, 0xffffffffffffffffffffffffffffffffffff000000000000000000000000000000000000),
  (0x2584, 0x000000000000000000000000000000000000ffffffffffffffffffffffffffffffffffff),
  (0x2588, 0xffffffffffffffffffffffffffffffffffffffffffffffffffffffffffffffffffffffff),
  (0x258C, 0xfc0fc0fc0fc0fc0fc0fc0fc0fc0fc0fc0fc0fc0fc0fc0fc0fc0fc0fc0fc0fc0fc0fc0fc0),
  (0x2590, 0x03f03f03f03f03f03f03f03f03f03f03f03f03f03f03f03f03f03f03f03f03f03f03f03f),
  (0x2591, 0x0c36db6180c36db6180c36db6180c36db6180c36db6180c36db6180c36db6180c36db618),
  (0x2592, 0x333333cccccc333333cccccc333333cccccc333333cccccc333333cccccc333333cccccc),
  (0x2593, 0xe79e793cf3cfe79e793cf3cfe79e793cf3cfe79e793cf3cfe79e793cf3cfe79e793cf3cf),
  (0x25CB, 0x0000000000000000000000000f019830c30c30c30c1980f0000000000000000000000000),
  (0x25D8, 0xffffffffffffffffffffffffffff0fe07e07e07e07f0ffffffffffffffffffffffffffff),
  (0x25D9, 0xfffffffffffffffffffffffff0fe67cf3cf3cf3cf3e67f0fffffffffffffffffffffffff),
  (0x2665, 0x0000000000000000003187bcffeffeffeffe7fc7fc3f81f00e0040000000000000000000)]

/-- The pattern of a character, if the face has one. -/
def pattern? (c : Char) : Option Nat :=
  (patterns.find? fun entry => entry.1 == c.toNat).map (·.2)

/-- Whether a pattern is inked in a column and a row, both counted from the top left corner. -/
def inked (pattern column row : Nat) : Bool :=
  pattern.testBit (width * (height - 1 - row) + (width - 1 - column))

end PinPrinter.Face
