import Rebac.Text.Composed
import Rebac.Text.Mark

set_option autoImplicit false

/-!
# Characters of host names

Which characters may stand in a label of a host name: letters and digits anywhere, and some others
among certain characters only.
-/

/-!
## Letters of host names

The characters that may stand anywhere in a label of a host name: letters without capitals, digits,
marks and the hyphen (Unicode 14). Characters with another spelling in lower case or in compatible
characters are left out.
-/

namespace Rebac.Host

open Text

/-- The runs of letters of host names. Characters without a shape lie between them. -/
def letterRuns : List Run :=
  [
    ⟨0x2D, 0x2D, 1⟩, ⟨0x30, 0x39, 1⟩, ⟨0x61, 0x7A, 1⟩, ⟨0xDF, 0xF6, 1⟩, ⟨0xF8, 0xFF, 1⟩,
    ⟨0x101, 0x131, 2⟩, ⟨0x135, 0x135, 1⟩, ⟨0x137, 0x138, 1⟩, ⟨0x13A, 0x13E, 2⟩, ⟨0x142, 0x148, 2⟩,
    ⟨0x14B, 0x177, 2⟩, ⟨0x17A, 0x180, 2⟩, ⟨0x183, 0x185, 2⟩, ⟨0x188, 0x188, 1⟩, ⟨0x18C, 0x18D, 1⟩,
    ⟨0x192, 0x192, 1⟩, ⟨0x195, 0x195, 1⟩, ⟨0x199, 0x19B, 1⟩, ⟨0x19E, 0x19E, 1⟩, ⟨0x1A1, 0x1A5, 2⟩,
    ⟨0x1A8, 0x1A8, 1⟩, ⟨0x1AA, 0x1AB, 1⟩, ⟨0x1AD, 0x1AD, 1⟩, ⟨0x1B0, 0x1B0, 1⟩, ⟨0x1B4, 0x1B6, 2⟩,
    ⟨0x1B9, 0x1BB, 1⟩, ⟨0x1BD, 0x1C3, 1⟩, ⟨0x1CE, 0x1DA, 2⟩, ⟨0x1DC, 0x1DD, 1⟩, ⟨0x1DF, 0x1ED, 2⟩,
    ⟨0x1EF, 0x1F0, 1⟩, ⟨0x1F5, 0x1F5, 1⟩, ⟨0x1F9, 0x231, 2⟩, ⟨0x233, 0x239, 1⟩, ⟨0x23C, 0x23C, 1⟩,
    ⟨0x23F, 0x240, 1⟩, ⟨0x242, 0x242, 1⟩, ⟨0x247, 0x24D, 2⟩, ⟨0x24F, 0x2AF, 1⟩, ⟨0x2B9, 0x2C1, 1⟩,
    ⟨0x2C6, 0x2D1, 1⟩, ⟨0x2EC, 0x2EE, 2⟩, ⟨0x300, 0x33F, 1⟩, ⟨0x342, 0x342, 1⟩, ⟨0x346, 0x34E, 1⟩,
    ⟨0x350, 0x36F, 1⟩, ⟨0x371, 0x373, 2⟩, ⟨0x377, 0x377, 1⟩, ⟨0x37B, 0x37D, 1⟩, ⟨0x390, 0x390, 1⟩,
    ⟨0x3AC, 0x3CE, 1⟩, ⟨0x3D7, 0x3EF, 2⟩, ⟨0x3F3, 0x3F3, 1⟩, ⟨0x3F8, 0x3F8, 1⟩, ⟨0x3FB, 0x3FC, 1⟩,
    ⟨0x430, 0x45F, 1⟩, ⟨0x461, 0x481, 2⟩, ⟨0x483, 0x487, 1⟩, ⟨0x48B, 0x4BF, 2⟩, ⟨0x4C2, 0x4CC, 2⟩,
    ⟨0x4CE, 0x4CF, 1⟩, ⟨0x4D1, 0x52F, 2⟩, ⟨0x559, 0x559, 1⟩, ⟨0x560, 0x586, 1⟩, ⟨0x588, 0x588, 1⟩,
    ⟨0x591, 0x5BD, 1⟩, ⟨0x5BF, 0x5BF, 1⟩, ⟨0x5C1, 0x5C2, 1⟩, ⟨0x5C4, 0x5C5, 1⟩, ⟨0x5C7, 0x5F2, 1⟩,
    ⟨0x610, 0x61A, 1⟩, ⟨0x620, 0x63F, 1⟩, ⟨0x641, 0x65F, 1⟩, ⟨0x66E, 0x674, 1⟩, ⟨0x679, 0x6D3, 1⟩,
    ⟨0x6D5, 0x6DC, 1⟩, ⟨0x6DF, 0x6E8, 1⟩, ⟨0x6EA, 0x6EF, 1⟩, ⟨0x6FA, 0x6FF, 1⟩, ⟨0x710, 0x7F5, 1⟩,
    ⟨0x7FD, 0x7FD, 1⟩, ⟨0x800, 0x82D, 1⟩, ⟨0x840, 0x85B, 1⟩, ⟨0x860, 0x887, 1⟩, ⟨0x889, 0x957, 1⟩,
    ⟨0x960, 0x963, 1⟩, ⟨0x966, 0x96F, 1⟩, ⟨0x971, 0x9D7, 1⟩, ⟨0x9E0, 0x9F1, 1⟩, ⟨0x9FC, 0x9FC, 1⟩,
    ⟨0x9FE, 0xA32, 1⟩, ⟨0xA35, 0xA35, 1⟩, ⟨0xA38, 0xA51, 1⟩, ⟨0xA5C, 0xA5C, 1⟩, ⟨0xA66, 0xA75, 1⟩,
    ⟨0xA81, 0xAEF, 1⟩, ⟨0xAF9, 0xB57, 1⟩, ⟨0xB5F, 0xB6F, 1⟩, ⟨0xB71, 0xB71, 1⟩, ⟨0xB82, 0xBEF, 1⟩,
    ⟨0xC00, 0xC6F, 1⟩, ⟨0xC80, 0xC83, 1⟩, ⟨0xC85, 0xD4E, 1⟩, ⟨0xD54, 0xD57, 1⟩, ⟨0xD5F, 0xD6F, 1⟩,
    ⟨0xD7A, 0xDF3, 1⟩, ⟨0xE01, 0xE32, 1⟩, ⟨0xE34, 0xE3A, 1⟩, ⟨0xE40, 0xE4E, 1⟩, ⟨0xE50, 0xE59, 1⟩,
    ⟨0xE81, 0xEB2, 1⟩, ⟨0xEB4, 0xED9, 1⟩, ⟨0xEDE, 0xF00, 1⟩, ⟨0xF0B, 0xF0B, 1⟩, ⟨0xF18, 0xF19, 1⟩,
    ⟨0xF20, 0xF29, 1⟩, ⟨0xF35, 0xF39, 2⟩, ⟨0xF3E, 0xF42, 1⟩, ⟨0xF44, 0xF4C, 1⟩, ⟨0xF4E, 0xF51, 1⟩,
    ⟨0xF53, 0xF56, 1⟩, ⟨0xF58, 0xF5B, 1⟩, ⟨0xF5D, 0xF68, 1⟩, ⟨0xF6A, 0xF72, 1⟩, ⟨0xF74, 0xF74, 1⟩,
    ⟨0xF7A, 0xF80, 1⟩, ⟨0xF82, 0xF84, 1⟩, ⟨0xF86, 0xF92, 1⟩, ⟨0xF94, 0xF9C, 1⟩, ⟨0xF9E, 0xFA1, 1⟩,
    ⟨0xFA3, 0xFA6, 1⟩, ⟨0xFA8, 0xFAB, 1⟩, ⟨0xFAD, 0xFB8, 1⟩, ⟨0xFBA, 0xFBC, 1⟩, ⟨0xFC6, 0xFC6, 1⟩,
    ⟨0x1000, 0x1049, 1⟩, ⟨0x1050, 0x109D, 1⟩, ⟨0x10D0, 0x10FA, 1⟩, ⟨0x10FD, 0x10FF, 1⟩,
    ⟨0x1200, 0x135F, 1⟩, ⟨0x1380, 0x138F, 1⟩, ⟨0x13A0, 0x13F5, 1⟩, ⟨0x1401, 0x166C, 1⟩,
    ⟨0x166F, 0x169A, 1⟩, ⟨0x16A0, 0x16EA, 1⟩, ⟨0x16F1, 0x1734, 1⟩, ⟨0x1740, 0x17B3, 1⟩,
    ⟨0x17B6, 0x17D3, 1⟩, ⟨0x17D7, 0x17D7, 1⟩, ⟨0x17DC, 0x17E9, 1⟩, ⟨0x1810, 0x193B, 1⟩,
    ⟨0x1946, 0x19D9, 1⟩, ⟨0x1A00, 0x1A1B, 1⟩, ⟨0x1A20, 0x1A99, 1⟩, ⟨0x1AA7, 0x1AA7, 1⟩,
    ⟨0x1AB0, 0x1ABD, 1⟩, ⟨0x1ABF, 0x1B59, 1⟩, ⟨0x1B6B, 0x1B73, 1⟩, ⟨0x1B80, 0x1BF3, 1⟩,
    ⟨0x1C00, 0x1C37, 1⟩, ⟨0x1C40, 0x1C7D, 1⟩, ⟨0x1CD0, 0x1CD2, 1⟩, ⟨0x1CD4, 0x1D2B, 1⟩,
    ⟨0x1D2F, 0x1D2F, 1⟩, ⟨0x1D3B, 0x1D3B, 1⟩, ⟨0x1D4E, 0x1D4E, 1⟩, ⟨0x1D6B, 0x1D77, 1⟩,
    ⟨0x1D79, 0x1D9A, 1⟩, ⟨0x1DC0, 0x1DFF, 1⟩, ⟨0x1E01, 0x1E93, 2⟩, ⟨0x1E95, 0x1E99, 1⟩,
    ⟨0x1E9C, 0x1E9D, 1⟩, ⟨0x1E9F, 0x1EFD, 2⟩, ⟨0x1EFF, 0x1F07, 1⟩, ⟨0x1F10, 0x1F15, 1⟩,
    ⟨0x1F20, 0x1F27, 1⟩, ⟨0x1F30, 0x1F37, 1⟩, ⟨0x1F40, 0x1F45, 1⟩, ⟨0x1F50, 0x1F57, 1⟩,
    ⟨0x1F60, 0x1F67, 1⟩, ⟨0x1F70, 0x1F7C, 2⟩, ⟨0x1FB0, 0x1FB1, 1⟩, ⟨0x1FB6, 0x1FB6, 1⟩,
    ⟨0x1FC6, 0x1FC6, 1⟩, ⟨0x1FD0, 0x1FD2, 1⟩, ⟨0x1FD6, 0x1FD7, 1⟩, ⟨0x1FE0, 0x1FE2, 1⟩,
    ⟨0x1FE4, 0x1FE7, 1⟩, ⟨0x1FF6, 0x1FF6, 1⟩, ⟨0x214E, 0x214E, 1⟩, ⟨0x2184, 0x2184, 1⟩,
    ⟨0x2C30, 0x2C5F, 1⟩, ⟨0x2C61, 0x2C61, 1⟩, ⟨0x2C65, 0x2C66, 1⟩, ⟨0x2C68, 0x2C6C, 2⟩,
    ⟨0x2C71, 0x2C71, 1⟩, ⟨0x2C73, 0x2C74, 1⟩, ⟨0x2C76, 0x2C7B, 1⟩, ⟨0x2C81, 0x2CE1, 2⟩,
    ⟨0x2CE3, 0x2CE4, 1⟩, ⟨0x2CEC, 0x2CEC, 1⟩, ⟨0x2CEE, 0x2CF1, 1⟩, ⟨0x2CF3, 0x2CF3, 1⟩,
    ⟨0x2D00, 0x2D67, 1⟩, ⟨0x2D7F, 0x2DFF, 1⟩, ⟨0x2E2F, 0x2E2F, 1⟩, ⟨0x3005, 0x3007, 1⟩,
    ⟨0x302A, 0x302D, 1⟩, ⟨0x303C, 0x303C, 1⟩, ⟨0x3041, 0x309A, 1⟩, ⟨0x309D, 0x309E, 1⟩,
    ⟨0x30A1, 0x30FA, 1⟩, ⟨0x30FC, 0x30FE, 1⟩, ⟨0x3105, 0x312F, 1⟩, ⟨0x31A0, 0x31BF, 1⟩,
    ⟨0x31F0, 0x31FF, 1⟩, ⟨0x3400, 0x4DBF, 1⟩, ⟨0x4E00, 0xA48C, 1⟩, ⟨0xA4D0, 0xA4FD, 1⟩,
    ⟨0xA500, 0xA60C, 1⟩, ⟨0xA610, 0xA62B, 1⟩, ⟨0xA641, 0xA66B, 2⟩, ⟨0xA66D, 0xA66F, 1⟩,
    ⟨0xA674, 0xA67D, 1⟩, ⟨0xA67F, 0xA69B, 2⟩, ⟨0xA69E, 0xA6E5, 1⟩, ⟨0xA6F0, 0xA6F1, 1⟩,
    ⟨0xA717, 0xA71F, 1⟩, ⟨0xA723, 0xA72D, 2⟩, ⟨0xA72F, 0xA731, 1⟩, ⟨0xA733, 0xA76F, 2⟩,
    ⟨0xA771, 0xA778, 1⟩, ⟨0xA77A, 0xA77C, 2⟩, ⟨0xA77F, 0xA785, 2⟩, ⟨0xA787, 0xA788, 1⟩,
    ⟨0xA78C, 0xA78C, 1⟩, ⟨0xA78E, 0xA78F, 1⟩, ⟨0xA791, 0xA791, 1⟩, ⟨0xA793, 0xA795, 1⟩,
    ⟨0xA797, 0xA7A9, 2⟩, ⟨0xA7AF, 0xA7AF, 1⟩, ⟨0xA7B5, 0xA7C3, 2⟩, ⟨0xA7C8, 0xA7CA, 2⟩,
    ⟨0xA7D1, 0xA7D5, 1⟩, ⟨0xA7D7, 0xA7D9, 2⟩, ⟨0xA7F6, 0xA7F7, 1⟩, ⟨0xA7FA, 0xA827, 1⟩,
    ⟨0xA82C, 0xA82C, 1⟩, ⟨0xA840, 0xA873, 1⟩, ⟨0xA880, 0xA8C5, 1⟩, ⟨0xA8D0, 0xA8F7, 1⟩,
    ⟨0xA8FB, 0xA8FB, 1⟩, ⟨0xA8FD, 0xA92D, 1⟩, ⟨0xA930, 0xA953, 1⟩, ⟨0xA980, 0xA9C0, 1⟩,
    ⟨0xA9CF, 0xA9D9, 1⟩, ⟨0xA9E0, 0xAA59, 1⟩, ⟨0xAA60, 0xAA76, 1⟩, ⟨0xAA7A, 0xAADD, 1⟩,
    ⟨0xAAE0, 0xAAEF, 1⟩, ⟨0xAAF2, 0xAB5A, 1⟩, ⟨0xAB60, 0xAB68, 1⟩, ⟨0xABC0, 0xABEA, 1⟩,
    ⟨0xABEC, 0xD7A3, 1⟩, ⟨0xFA0E, 0xFA0F, 1⟩, ⟨0xFA11, 0xFA11, 1⟩, ⟨0xFA13, 0xFA14, 1⟩,
    ⟨0xFA1F, 0xFA21, 2⟩, ⟨0xFA23, 0xFA24, 1⟩, ⟨0xFA27, 0xFA29, 1⟩, ⟨0xFB1E, 0xFB1E, 1⟩,
    ⟨0xFE20, 0xFE2F, 1⟩, ⟨0xFE73, 0xFE73, 1⟩, ⟨0x10000, 0x100FA, 1⟩, ⟨0x101FD, 0x102E0, 1⟩,
    ⟨0x10300, 0x1031F, 1⟩, ⟨0x1032D, 0x10340, 1⟩, ⟨0x10342, 0x10349, 1⟩, ⟨0x10350, 0x1039D, 1⟩,
    ⟨0x103A0, 0x103CF, 1⟩, ⟨0x10428, 0x104A9, 1⟩, ⟨0x104D8, 0x10563, 1⟩, ⟨0x10597, 0x10780, 1⟩,
    ⟨0x10800, 0x10855, 1⟩, ⟨0x10860, 0x10876, 1⟩, ⟨0x10880, 0x1089E, 1⟩, ⟨0x108E0, 0x108F5, 1⟩,
    ⟨0x10900, 0x10915, 1⟩, ⟨0x10920, 0x10939, 1⟩, ⟨0x10980, 0x109B7, 1⟩, ⟨0x109BE, 0x109BF, 1⟩,
    ⟨0x10A00, 0x10A3F, 1⟩, ⟨0x10A60, 0x10A7C, 1⟩, ⟨0x10A80, 0x10A9C, 1⟩, ⟨0x10AC0, 0x10AC7, 1⟩,
    ⟨0x10AC9, 0x10AE6, 1⟩, ⟨0x10B00, 0x10B35, 1⟩, ⟨0x10B40, 0x10B55, 1⟩, ⟨0x10B60, 0x10B72, 1⟩,
    ⟨0x10B80, 0x10B91, 1⟩, ⟨0x10C00, 0x10C48, 1⟩, ⟨0x10CC0, 0x10CF2, 1⟩, ⟨0x10D00, 0x10D39, 1⟩,
    ⟨0x10E80, 0x10EAC, 1⟩, ⟨0x10EB0, 0x10F1C, 1⟩, ⟨0x10F27, 0x10F50, 1⟩, ⟨0x10F70, 0x10F85, 1⟩,
    ⟨0x10FB0, 0x10FC4, 1⟩, ⟨0x10FE0, 0x11046, 1⟩, ⟨0x11066, 0x110BA, 1⟩, ⟨0x110C2, 0x1113F, 1⟩,
    ⟨0x11144, 0x11173, 1⟩, ⟨0x11176, 0x111C4, 1⟩, ⟨0x111C9, 0x111CC, 1⟩, ⟨0x111CE, 0x111DA, 1⟩,
    ⟨0x111DC, 0x111DC, 1⟩, ⟨0x11200, 0x11237, 1⟩, ⟨0x1123E, 0x112A8, 1⟩, ⟨0x112B0, 0x1144A, 1⟩,
    ⟨0x11450, 0x11459, 1⟩, ⟨0x1145E, 0x114C5, 1⟩, ⟨0x114C7, 0x115C0, 1⟩, ⟨0x115D8, 0x11640, 1⟩,
    ⟨0x11644, 0x11659, 1⟩, ⟨0x11680, 0x116B8, 1⟩, ⟨0x116C0, 0x11739, 1⟩, ⟨0x11740, 0x1183A, 1⟩,
    ⟨0x118C0, 0x118E9, 1⟩, ⟨0x118FF, 0x11943, 1⟩, ⟨0x11950, 0x119E1, 1⟩, ⟨0x119E3, 0x11A3E, 1⟩,
    ⟨0x11A47, 0x11A99, 1⟩, ⟨0x11A9D, 0x11A9D, 1⟩, ⟨0x11AB0, 0x11C40, 1⟩, ⟨0x11C50, 0x11C59, 1⟩,
    ⟨0x11C72, 0x11EF6, 1⟩, ⟨0x11FB0, 0x11FB0, 1⟩, ⟨0x12000, 0x12399, 1⟩, ⟨0x12480, 0x12FF0, 1⟩,
    ⟨0x13000, 0x16A69, 1⟩, ⟨0x16A70, 0x16AF4, 1⟩, ⟨0x16B00, 0x16B36, 1⟩, ⟨0x16B40, 0x16B43, 1⟩,
    ⟨0x16B50, 0x16B59, 1⟩, ⟨0x16B63, 0x16B8F, 1⟩, ⟨0x16E60, 0x16E7F, 1⟩, ⟨0x16F00, 0x16FE1, 1⟩,
    ⟨0x16FE3, 0x1BC99, 1⟩, ⟨0x1BC9D, 0x1BC9E, 1⟩, ⟨0x1CF00, 0x1CF46, 1⟩, ⟨0x1DA00, 0x1DA36, 1⟩,
    ⟨0x1DA3B, 0x1DA6C, 1⟩, ⟨0x1DA75, 0x1DA75, 1⟩, ⟨0x1DA84, 0x1DA84, 1⟩, ⟨0x1DA9B, 0x1E14E, 1⟩,
    ⟨0x1E290, 0x1E2F9, 1⟩, ⟨0x1E7E0, 0x1E8C4, 1⟩, ⟨0x1E8D0, 0x1E8D6, 1⟩, ⟨0x1E922, 0x1E959, 1⟩,
    ⟨0x20000, 0x2EBE0, 1⟩, ⟨0x30000, 0x3134A, 1⟩ ]

/-- Whether a character may stand anywhere in a label. -/
def isLetter (c : Char) : Bool := inRuns letterRuns c && isVisible c

end Rebac.Host

/-!
## Joining letters

Letters of cursive scripts join the letters beside them. A joiner may stand in a host name where it
changes how letters are shown: behind a mark that takes away a vowel, and a non-joiner also between
two letters that would join.
-/

namespace Rebac.Host

open Text

/-- The runs of letters that join both neighbours. -/
def dualRuns : List Run :=
  [
    ⟨0x620, 0x620, 1⟩, ⟨0x626, 0x626, 1⟩, ⟨0x628, 0x628, 1⟩, ⟨0x62A, 0x62E, 1⟩,
    ⟨0x633, 0x63F, 1⟩, ⟨0x641, 0x647, 1⟩, ⟨0x649, 0x64A, 1⟩, ⟨0x66E, 0x66F, 1⟩,
    ⟨0x678, 0x687, 1⟩, ⟨0x69A, 0x6BF, 1⟩, ⟨0x6C1, 0x6C2, 1⟩, ⟨0x6CC, 0x6CC, 1⟩,
    ⟨0x6CE, 0x6CE, 1⟩, ⟨0x6D0, 0x6D1, 1⟩, ⟨0x6FA, 0x6FC, 1⟩, ⟨0x6FF, 0x6FF, 1⟩,
    ⟨0x712, 0x714, 1⟩, ⟨0x71A, 0x71D, 1⟩, ⟨0x71F, 0x727, 1⟩, ⟨0x729, 0x729, 1⟩,
    ⟨0x72B, 0x72B, 1⟩, ⟨0x72D, 0x72E, 1⟩, ⟨0x74E, 0x758, 1⟩, ⟨0x75C, 0x76A, 1⟩,
    ⟨0x76D, 0x770, 1⟩, ⟨0x772, 0x772, 1⟩, ⟨0x775, 0x777, 1⟩, ⟨0x77A, 0x77F, 1⟩,
    ⟨0x7CA, 0x7EA, 1⟩, ⟨0x841, 0x845, 1⟩, ⟨0x848, 0x848, 1⟩, ⟨0x84A, 0x853, 1⟩,
    ⟨0x855, 0x855, 1⟩, ⟨0x860, 0x860, 1⟩, ⟨0x862, 0x865, 1⟩, ⟨0x868, 0x868, 1⟩,
    ⟨0x886, 0x886, 1⟩, ⟨0x889, 0x88D, 1⟩, ⟨0x8A0, 0x8A9, 1⟩, ⟨0x8AF, 0x8B0, 1⟩,
    ⟨0x8B3, 0x8B8, 1⟩, ⟨0x8BA, 0x8C8, 1⟩, ⟨0x1807, 0x1807, 1⟩, ⟨0x1820, 0x1878, 1⟩,
    ⟨0x1887, 0x18A8, 1⟩, ⟨0x18AA, 0x18AA, 1⟩, ⟨0xA840, 0xA871, 1⟩, ⟨0x10AC0, 0x10AC4, 1⟩,
    ⟨0x10AD3, 0x10AD6, 1⟩, ⟨0x10AD8, 0x10ADC, 1⟩, ⟨0x10ADE, 0x10AE0, 1⟩, ⟨0x10B80, 0x10B82, 2⟩,
    ⟨0x10B86, 0x10B88, 1⟩, ⟨0x10B8A, 0x10B8B, 1⟩, ⟨0x10B8D, 0x10B8D, 1⟩, ⟨0x10B90, 0x10B90, 1⟩,
    ⟨0x10D01, 0x10D21, 1⟩, ⟨0x10D23, 0x10D23, 1⟩, ⟨0x10F30, 0x10F32, 1⟩, ⟨0x10F34, 0x10F44, 1⟩,
    ⟨0x10F70, 0x10F73, 1⟩, ⟨0x10F76, 0x10F81, 1⟩, ⟨0x10FB0, 0x10FB0, 1⟩, ⟨0x10FB2, 0x10FB3, 1⟩,
    ⟨0x10FB8, 0x10FB8, 1⟩, ⟨0x10FBB, 0x10FBC, 1⟩, ⟨0x10FBE, 0x10FBF, 1⟩, ⟨0x10FC1, 0x10FC1, 1⟩,
    ⟨0x10FC4, 0x10FC4, 1⟩, ⟨0x1E900, 0x1E943, 1⟩ ]

/-- The runs of letters that join the letter before them only. -/
def trailingRuns : List Run :=
  [
    ⟨0x622, 0x625, 1⟩, ⟨0x627, 0x627, 1⟩, ⟨0x629, 0x629, 1⟩, ⟨0x62F, 0x632, 1⟩,
    ⟨0x648, 0x648, 1⟩, ⟨0x671, 0x673, 1⟩, ⟨0x675, 0x677, 1⟩, ⟨0x688, 0x699, 1⟩,
    ⟨0x6C0, 0x6C0, 1⟩, ⟨0x6C3, 0x6CB, 1⟩, ⟨0x6CD, 0x6CF, 2⟩, ⟨0x6D2, 0x6D3, 1⟩,
    ⟨0x6D5, 0x6D5, 1⟩, ⟨0x6EE, 0x6EF, 1⟩, ⟨0x710, 0x710, 1⟩, ⟨0x715, 0x719, 1⟩,
    ⟨0x71E, 0x71E, 1⟩, ⟨0x728, 0x728, 1⟩, ⟨0x72A, 0x72A, 1⟩, ⟨0x72C, 0x72C, 1⟩,
    ⟨0x72F, 0x72F, 1⟩, ⟨0x74D, 0x74D, 1⟩, ⟨0x759, 0x75B, 1⟩, ⟨0x76B, 0x76C, 1⟩,
    ⟨0x771, 0x771, 1⟩, ⟨0x773, 0x774, 1⟩, ⟨0x778, 0x779, 1⟩, ⟨0x840, 0x840, 1⟩,
    ⟨0x846, 0x847, 1⟩, ⟨0x849, 0x849, 1⟩, ⟨0x854, 0x854, 1⟩, ⟨0x856, 0x858, 1⟩,
    ⟨0x867, 0x867, 1⟩, ⟨0x869, 0x86A, 1⟩, ⟨0x870, 0x882, 1⟩, ⟨0x88E, 0x88E, 1⟩,
    ⟨0x8AA, 0x8AC, 1⟩, ⟨0x8AE, 0x8AE, 1⟩, ⟨0x8B1, 0x8B2, 1⟩, ⟨0x8B9, 0x8B9, 1⟩,
    ⟨0x10AC5, 0x10AC7, 2⟩, ⟨0x10AC9, 0x10ACA, 1⟩, ⟨0x10ACE, 0x10AD2, 1⟩, ⟨0x10ADD, 0x10ADD, 1⟩,
    ⟨0x10AE1, 0x10AE1, 1⟩, ⟨0x10AE4, 0x10AE4, 1⟩, ⟨0x10B81, 0x10B81, 1⟩, ⟨0x10B83, 0x10B85, 1⟩,
    ⟨0x10B89, 0x10B89, 1⟩, ⟨0x10B8C, 0x10B8C, 1⟩, ⟨0x10B8E, 0x10B8F, 1⟩, ⟨0x10B91, 0x10B91, 1⟩,
    ⟨0x10D22, 0x10D22, 1⟩, ⟨0x10F33, 0x10F33, 1⟩, ⟨0x10F54, 0x10F54, 1⟩, ⟨0x10F74, 0x10F75, 1⟩,
    ⟨0x10FB4, 0x10FB6, 1⟩, ⟨0x10FB9, 0x10FBA, 1⟩, ⟨0x10FBD, 0x10FBD, 1⟩, ⟨0x10FC2, 0x10FC3, 1⟩ ]

/-- The runs of letters that join the letter behind them only. -/
def leadingRuns : List Run :=
  [
    ⟨0xA872, 0xA872, 1⟩, ⟨0x10ACD, 0x10ACD, 1⟩, ⟨0x10AD7, 0x10AD7, 1⟩, ⟨0x10D00, 0x10D00, 1⟩,
    ⟨0x10FCB, 0x10FCB, 1⟩ ]

/-- Whether a letter joins the one behind it. -/
def joinsNext (c : Char) : Bool := inRuns dualRuns c || inRuns leadingRuns c

/-- Whether a letter joins the one before it. -/
def joinsPrevious (c : Char) : Bool := inRuns dualRuns c || inRuns trailingRuns c

/-- The class of the marks that take away a vowel. -/
def viramaClass : Nat := 9

/-- Whether a text, read from its end, begins with a mark that takes away a vowel. -/
def isBehindVirama (before : List Char) : Bool :=
  before.head?.any (fun c => combiningClass c == viramaClass)

/-- Whether a text begins with a letter of some kind, marks aside. -/
def startsWith (kind : Char → Bool) (s : List Char) : Bool :=
  (s.dropWhile isNonspacing).head?.any kind

/-- Whether a joiner may stand between two texts, the first of which is read from its end. -/
def allowsJoiner (before : List Char) : Bool := isBehindVirama before

/-- Whether a non-joiner may stand between two texts, the first of which is read from its end. -/
def allowsNonJoiner (before behind : List Char) : Bool :=
  isBehindVirama before || (startsWith joinsNext before && startsWith joinsPrevious behind)

end Rebac.Host

/-!
## Characters with conditions

Characters that may stand in a label of a host name among certain other characters only: a middle
dot between two letters l, marks of Greek and Hebrew numbers beside a letter of that script, a
middle dot of Japanese in a label with Japanese letters, Arabic digits of one kind, and joiners.
-/

namespace Rebac.Host

open Text

/-- The runs of Greek characters. -/
def greekRuns : List Run :=
  [
    ⟨0x370, 0x373, 1⟩, ⟨0x375, 0x377, 1⟩, ⟨0x37A, 0x37D, 1⟩, ⟨0x37F, 0x37F, 1⟩,
    ⟨0x384, 0x384, 1⟩, ⟨0x386, 0x386, 1⟩, ⟨0x388, 0x3E1, 1⟩, ⟨0x3F0, 0x3FF, 1⟩,
    ⟨0x1D26, 0x1D2A, 1⟩, ⟨0x1F00, 0x1FFE, 1⟩, ⟨0xAB65, 0xAB65, 1⟩ ]

/-- The runs of Hebrew characters. -/
def hebrewRuns : List Run := [⟨0x591, 0x5F4, 1⟩, ⟨0xFB1D, 0xFB4F, 1⟩]

/-- The runs of Japanese and Chinese characters. -/
def japaneseRuns : List Run :=
  [
    ⟨0x3005, 0x3005, 1⟩, ⟨0x3007, 0x3007, 1⟩, ⟨0x3021, 0x3029, 1⟩, ⟨0x3038, 0x303B, 1⟩,
    ⟨0x3041, 0x3096, 1⟩, ⟨0x309D, 0x309F, 1⟩, ⟨0x30A1, 0x30FA, 1⟩, ⟨0x30FD, 0x30FF, 1⟩,
    ⟨0x31F0, 0x31FF, 1⟩, ⟨0x3400, 0x4DBF, 1⟩, ⟨0x4E00, 0x9FFF, 1⟩, ⟨0xF900, 0xFAD9, 1⟩,
    ⟨0x16FE2, 0x16FE3, 1⟩, ⟨0x16FF0, 0x16FF1, 1⟩, ⟨0x1AFF0, 0x1AFFE, 1⟩, ⟨0x1B000, 0x1B122, 1⟩,
    ⟨0x1B150, 0x1B167, 1⟩, ⟨0x20000, 0x3134A, 1⟩ ]

/-- Whether a character is a digit of the first kind of Arabic digits. -/
def isArabicDigit (c : Char) : Bool := 0x660 ≤ c.toNat && c.toNat ≤ 0x669

/-- Whether a character is a digit of the second kind of Arabic digits. -/
def isExtendedArabicDigit (c : Char) : Bool := 0x6F0 ≤ c.toNat && c.toNat ≤ 0x6F9

/-- Whether a character may stand between two parts of a label, the first of which is read from its
end. -/
def isAllowedBetween (before : List Char) (c : Char) (behind : List Char) : Bool :=
  match c.toNat with
  | 0xB7 => before.head? == some 'l' && behind.head? == some 'l'
  | 0x375 => behind.head?.any (inRuns greekRuns)
  | 0x5F3 | 0x5F4 => before.head?.any (inRuns hebrewRuns)
  | 0x30FB => before.any (inRuns japaneseRuns) || behind.any (inRuns japaneseRuns)
  | 0x200C => allowsNonJoiner before behind
  | 0x200D => allowsJoiner before
  | _ =>
      if isArabicDigit c then !(before ++ behind).any isExtendedArabicDigit
      else if isExtendedArabicDigit c then !(before ++ behind).any isArabicDigit
      else isLetter c

/-- Whether every character of a label may stand where it does, behind a part that is read from its
end. -/
def isAllowedBehind (before : List Char) : List Char → Bool
  | [] => true
  | c :: behind => isAllowedBetween before c behind && isAllowedBehind (c :: before) behind

/-- Whether every character of a label may stand where it does. -/
def isAllowed (label : List Char) : Bool := isAllowedBehind [] label

end Rebac.Host
